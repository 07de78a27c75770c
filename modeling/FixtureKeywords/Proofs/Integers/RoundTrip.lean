import FixtureKeywords.Proofs.Integers.Written

/-!
# Written integer keywords are read back

A keyword that was written from ranges and parities is read as these modifiers, under
their names and in their order. It then asks for what they ask for: an integer between
the bounds of the range, or the usual ones, and of the parity if there is one.

Two ranges are refused, and so are both parities. Nothing else that can be written is.
-/
namespace FixtureKeywords.IntegerModifier
variable {ms : List IntegerModifier} {t : Text}

theorem ownedBy_range (ms : List IntegerModifier) :
    writing.ownedBy "range" ms = (ms.filterMap bounds?).map fun b => .range b.1 b.2 := by
  apply Writing.ownedBy_eq_map
  · intro m howner
    obtain ⟨low, high, rfl⟩ := eq_range_of_name howner
    rfl
  · intro m howner
    cases m with
    | range _ _ => exact absurd rfl howner
    | parity _ => rfl

theorem name_of_bounds? {m : IntegerModifier} (h : m.bounds? ≠ none) : m.name = "range" := by
  cases m with
  | range _ _ => rfl
  | parity _ => exact absurd rfl h

theorem findSome?_parity?_of_mem (hboth : ¬ (.parity .even ∈ ms ∧ .parity .odd ∈ ms))
    {wanted : Parity} (h : .parity wanted ∈ ms) : ms.findSome? parity? = some wanted := by
  cases hfound : ms.findSome? parity? with
  | none => exact absurd (List.findSome?_eq_none_iff.mp hfound _ h) (by simp [parity?])
  | some other =>
      obtain ⟨m, hm, hother⟩ := List.exists_of_findSome?_eq_some hfound
      obtain rfl : m = .parity other := by
        cases m with
        | range _ _ => cases hother
        | parity p => exact congrArg parity (Option.some.inj hother)
      -- Another parity than the wanted one would stand beside it.
      cases other with
      | even =>
          cases wanted with
          | even => rfl
          | odd => exact absurd ⟨hm, h⟩ hboth
      | odd =>
          cases wanted with
          | even => exact absurd ⟨h, hm⟩ hboth
          | odd => rfl

theorem findSome?_parity?_of_forall_not_mem (h : ∀ wanted, .parity wanted ∉ ms) :
    ms.findSome? parity? = none := by
  rw [List.findSome?_eq_none_iff]
  intro m hm
  cases m with
  | range _ _ => rfl
  | parity wanted => exact absurd hm (h wanted)

theorem findSome?_parity?_congr {others : List IntegerModifier}
    (hboth : ¬ (.parity .even ∈ ms ∧ .parity .odd ∈ ms)) (hmem : ∀ m, m ∈ others ↔ m ∈ ms) :
    others.findSome? parity? = ms.findSome? parity? := by
  have hboth' : ¬ (.parity .even ∈ others ∧ .parity .odd ∈ others) := by rwa [hmem, hmem]
  by_cases h : ∃ wanted, .parity wanted ∈ ms
  · obtain ⟨wanted, hwanted⟩ := h
    rw [findSome?_parity?_of_mem hboth hwanted,
      findSome?_parity?_of_mem hboth' ((hmem _).mpr hwanted)]
  · have hnone : ∀ wanted, .parity wanted ∉ ms := not_exists.mp h
    rw [findSome?_parity?_of_forall_not_mem hnone,
      findSome?_parity?_of_forall_not_mem fun wanted hw => hnone wanted ((hmem _).mp hw)]

/-- A written keyword with at most one range is read, unless it asks for both parities. -/
theorem parse_written (h : writing.IsKeyword .integer ms t)
    (hrange : (ms.filterMap bounds?).length ≤ 1) :
    ∃ parsed : Parsed IntegerModifier, parsed.text = Text.strip t ∧
      parsed.flat = (rules.flatMap fun rule => writing.ownedBy rule.name ms) ∧
      (∀ name, parsed.all name = ms.filter (·.name = name)) ∧
      parse t = (parsed.checkExclusive exclusive).map fun _ => parsed := by
  have hlimit : ∀ rule ∈ rules, ∀ k, rule.limit = some k →
      (writing.ownedBy rule.name ms).length ≤ k := by
    intro rule hrule k hk
    rcases mem_rules_iff.mp hrule with rfl | ⟨wanted, rfl⟩
    · obtain rfl : 1 = k := Option.some.inj hk
      simpa [Rule.assignment, ownedBy_range] using hrange
    · cases hk
  have hvalue : ∀ m ∈ ms, writing.value m = .ok m := fun _ _ => rfl
  obtain ⟨entries, hentries, hflat⟩ := Writing.exists_gather hvalue rules
  have hparse := Parsed.parse_keyword h handled_rules nodup_names (fun m _ => m.name_mem) hlimit
    exclusive
  rw [hentries] at hparse
  refine ⟨⟨.integer, Text.strip t, entries⟩, rfl, hflat, ?_, hparse⟩
  intro name
  by_cases hname : name ∈ rules.map Rule.name
  · have hall := Writing.lookup_gather hentries nodup_names hname
    rw [Writing.mapM_ownedBy hvalue] at hall
    exact (Except.ok.inj hall).symm
  · have hnone : ms.filter (·.name = name) = [] := by
      rw [List.filter_eq_nil_iff]
      rintro m - hm
      exact hname (decide_eq_true_eq.mp hm ▸ m.name_mem)
    rw [hnone, Parsed.all, Writing.lookup_gather_eq_none hentries hname]
    rfl

theorem has_name {parsed : Parsed IntegerModifier}
    (hall : ∀ name, parsed.all name = ms.filter (·.name = name)) (wanted : Parity) :
    parsed.has wanted.name = true ↔ .parity wanted ∈ ms := by
  simp only [Parsed.has, hall, Bool.not_eq_true', List.isEmpty_eq_false_iff, ne_eq,
    List.filter_eq_nil_iff, decide_eq_true_eq]
  constructor
  · intro h
    push Not at h
    obtain ⟨m, hm, hname⟩ := h
    exact eq_parity_of_name hname ▸ hm
  · intro hm h
    exact h _ hm rfl

theorem checkExclusive_eq {parsed : Parsed IntegerModifier}
    (hall : ∀ name, parsed.all name = ms.filter (·.name = name)) :
    parsed.checkExclusive exclusive =
      if .parity .even ∈ ms ∧ .parity .odd ∈ ms then
        .error (.format (.together ["even", "odd"] (String.ofList parsed.text)))
      else .ok () := by
  have heven := has_name hall .even
  have hodd := has_name hall .odd
  simp only [exclusive, Parsed.checkExclusive, List.filter_cons, List.filter_nil, heven, hodd]
  by_cases he : .parity .even ∈ ms <;> by_cases ho : .parity .odd ∈ ms <;>
    simp [he, ho, Parity.name]

theorem parse_repeated (h : writing.IsKeyword .integer ms t)
    (hrange : 1 < (ms.filterMap bounds?).length) :
    parse t = .error (.format (.repeated "range" .integer (String.ofList (Text.strip t)))) := by
  have hmore : 1 < (writing.ownedBy "range" ms).length := by
    rwa [ownedBy_range, List.length_map]
  exact Parsed.parse_repeated h handled_rules (fun m _ => m.name_mem) rfl hmore exclusive

theorem request_eq {parsed : Parsed IntegerModifier}
    (hflat : parsed.flat = rules.flatMap fun rule => writing.ownedBy rule.name ms)
    (hboth : ¬ (.parity .even ∈ ms ∧ .parity .odd ∈ ms)) :
    request parsed =
      let bounds := (ms.findSome? bounds?).getD (Sample.least, Sample.greatest)
      ⟨bounds.1, bounds.2, ms.findSome? parity?⟩ := by
  have hbounds : parsed.flat.findSome? bounds? = ms.findSome? bounds? := by
    have hrange : "range" ∈ rules.map Rule.name := List.mem_cons_self
    have hsaid := Writing.filterMap_flatMap_ownedBy (W := writing)
      (fun _ hm => name_of_bounds? hm) nodup_names ms
    rw [if_pos hrange] at hsaid
    rw [hflat, ← List.head?_filterMap, hsaid, List.head?_filterMap]
  have hparity : parsed.flat.findSome? parity? = ms.findSome? parity? := by
    rw [hflat]
    exact findSome?_parity?_congr hboth fun _ => Writing.mem_flatMap_ownedBy name_mem
  unfold request
  rw [hbounds, hparity]

theorem generate_of_parse {parsed : Parsed IntegerModifier} (h : parse t = .ok parsed) :
    (generate t).map (DrawProgram.map Logged.value) =
      Sample.within (request parsed).parity (request parsed).low (request parsed).high := by
  unfold generate
  rw [h]
  simp only [bind, Except.bind]
  cases Sample.within (request parsed).parity (request parsed).low (request parsed).high with
  | error fault => rfl
  | ok program => exact congrArg Except.ok ((program.map_map _ _).trans program.map_id)

/-- A written keyword without a contradiction is read, and draws what its modifiers ask for. -/
theorem generate_of_consistent (h : writing.IsKeyword .integer ms t)
    (hrange : (ms.filterMap bounds?).length ≤ 1)
    (hboth : ¬ (.parity .even ∈ ms ∧ .parity .odd ∈ ms)) :
    let bounds := (ms.findSome? bounds?).getD (Sample.least, Sample.greatest)
    (∃ parsed, parse t = .ok parsed ∧ ∀ name, parsed.all name = ms.filter (·.name = name)) ∧
      (generate t).map (DrawProgram.map Logged.value) =
        Sample.within (ms.findSome? parity?) bounds.1 bounds.2 := by
  obtain ⟨parsed, -, hflat, hall, hparse⟩ := parse_written h hrange
  rw [checkExclusive_eq hall, if_neg hboth] at hparse
  refine ⟨⟨parsed, hparse, hall⟩, ?_⟩
  rw [generate_of_parse hparse, request_eq hflat hboth]

/-- A written keyword is read as its modifiers and draws the integer that they ask for, by
the same draws; or it has two ranges or both parities, and is refused. -/
theorem generate_as_written (h : writing.IsKeyword .integer ms t) :
    if 1 < (ms.filterMap bounds?).length then
      let fault := .format (.repeated "range" .integer (String.ofList (Text.strip t)))
      parse t = .error fault ∧ generate t = .error fault
    else if .parity .even ∈ ms ∧ .parity .odd ∈ ms then
      let fault := .format (.together ["even", "odd"] (String.ofList (Text.strip t)))
      parse t = .error fault ∧ generate t = .error fault
    else
      let bounds := (ms.findSome? bounds?).getD (Sample.least, Sample.greatest)
      (∃ parsed, parse t = .ok parsed ∧ ∀ name, parsed.all name = ms.filter (·.name = name)) ∧
        (generate t).map (DrawProgram.map Logged.value) =
          match ms.findSome? parity? with
          | some wanted => Sample.ofParity wanted bounds.1 bounds.2
          | none => Sample.between bounds.1 bounds.2 := by
  have hfault {fault : Fault} (hparse : parse t = .error fault) : generate t = .error fault := by
    unfold generate
    rw [hparse]
    rfl
  split_ifs with hrange hboth
  · exact ⟨parse_repeated h hrange, hfault (parse_repeated h hrange)⟩
  · obtain ⟨parsed, htext, -, hall, hparse⟩ := parse_written h (Nat.le_of_not_lt hrange)
    rw [checkExclusive_eq hall, if_pos hboth, htext] at hparse
    exact ⟨hparse, hfault hparse⟩
  · obtain ⟨hparsed, hdrawn⟩ := generate_of_consistent h (Nat.le_of_not_lt hrange) hboth
    refine ⟨hparsed, hdrawn.trans ?_⟩
    cases ms.findSome? parity? <;> rfl

/-- A range between two requests for the same parity. -/
theorem generate_as_written_spaced :
    let ms : List IntegerModifier := [.parity .odd, .range (-7) 15, .parity .odd]
    let written := "[RandInt\x7bodd\x7d \x7b RANGE= -007 : 15\x7d\n\x7b Odd \x7d]\n".toList
    writing.IsKeyword .integer ms written ∧
      (generate written).map (DrawProgram.map Logged.value) = Sample.ofParity .odd (-7) 15 := by
  intro ms written
  have hlow : Text.Writes 7 "007".toList := ⟨by decide, by decide, by decide⟩
  have hhigh : Text.Writes 15 "15".toList := ⟨by decide, by decide, by decide⟩
  have hpayload := @IsRange.intro (-7) 15 [' '] "-007".toList [' '] [' '] "15".toList []
    (by decide) (.minus hlow) (by decide) (by decide) (.plain hhigh) rfl
  have hrange := @Recogniser.IsAssignment.intro "range".toList " -007 : 15".toList [' ']
    "RANGE".toList [] (by decide) (by decide) rfl (by simp [Recogniser.isBrace])
  have hfirst := @Recogniser.IsFlag.intro "odd".toList [] "odd".toList [] rfl (by decide) rfl
  have hlast := @Recogniser.IsFlag.intro "odd".toList [' '] "Odd".toList [' '] (by decide)
    (by decide) (by decide)
  have hbody : writing.IsBody ms _ :=
    .cons (rfl : Text.isBlankText []) (.parity hfirst) <|
      .cons (by decide : Text.isBlankText [' ']) (.range hpayload hrange) <|
        .cons (by decide : Text.isBlankText ['\n']) (.parity hlast) <|
          .nil (rfl : Text.isBlankText [])
  have hkeyword : writing.IsKeyword .integer ms written :=
    @Writing.IsKeyword.intro _ _ writing .integer _ [] [] "RandInt".toList _ ['\n'] rfl rfl
      (by decide) hbody (by decide)
  have hdrawn := generate_as_written hkeyword
  rw [if_neg (by decide), if_neg (by decide)] at hdrawn
  exact ⟨hkeyword, hdrawn.2⟩

end FixtureKeywords.IntegerModifier
