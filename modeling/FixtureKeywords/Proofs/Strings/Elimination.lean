import FixtureKeywords.Proofs.Keyword.Elimination
import FixtureKeywords.Proofs.Strings.Written

/-!
# Reading a string keyword by elimination

The rules of string keywords handle what is written. The rule of additions has to go
first. Its own pass cannot be misled by what follows an addition, and no later pass meets
a payload.
-/
namespace FixtureKeywords.StringModifier
open Text Recogniser

def writing : Writing StringModifier StringModifier :=
  ⟨IsWritten, name, .ok⟩

theorem isBody_writing_iff {ms : List StringModifier} {body : Text} :
    writing.IsBody ms body ↔ IsBody ms body := by
  constructor
  · intro h
    induction h with
    | nil hb => exact .nil hb
    | cons hb hw _ ih => exact .cons hb hw ih
  · intro h
    induction h with
    | nil hb => exact .nil hb
    | cons hb hw _ ih => exact .cons hb hw ih

theorem IsKeyword.writing {ms : List StringModifier} {t : Text} (h : IsKeyword ms t) :
    StringModifier.writing.IsKeyword .string ms t := by
  obtain ⟨hbefore, hlead, hs, hbody, hafter⟩ := h
  exact .intro hbefore hlead hs (isBody_writing_iff.mpr hbody) hafter

theorem IsWritten.ne_nil {m : StringModifier} {w : Text} (h : IsWritten m w) : w ≠ [] := by
  cases h with
  | addition _ _ hw =>
      obtain ⟨⟨_, _, _⟩, _, _⟩ := hw
      simp
  | length _ hw =>
      obtain ⟨_, _, _, _⟩ := hw
      simp
  | select hw =>
      obtain ⟨_, _, _⟩ := hw
      simp

theorem opens_of_mem {rule : Rule StringModifier} (h : rule ∈ rules) :
    Opens rule.name.toList rule.recognise := by
  simp only [rules, List.mem_append, List.mem_cons, List.mem_map, List.not_mem_nil, or_false] at h
  rcases h with (rfl | rfl) | ⟨chosen, -, rfl⟩
  · intro t ht
    apply recogniseAddition_eq_none
    rw [dropOpener?, ht]
    rfl
  · exact opens_assignment _
  · exact opens_flag _

theorem recognise_written {rule : Rule StringModifier} (hrule : rule ∈ rules) {m : StringModifier}
    {w : Text} {ms : List StringModifier} {body : Text} (hname : m.name = rule.name)
    (hw : IsWritten m w) (hbody : IsBody ms body) :
    ∃ payload, rule.recognise (w ++ (body ++ [']'])) = some ⟨w, payload⟩ ∧
      rule.read ⟨w, payload⟩ = .ok m := by
  simp only [rules, List.mem_append, List.mem_cons, List.mem_map, List.not_mem_nil,
    or_false] at hrule
  rcases hrule with (rfl | rfl) | ⟨chosen, -, rfl⟩
  · obtain ⟨characters, rfl⟩ := eq_addition_of_name hname
    obtain ⟨hne, hopener, hw⟩ | ⟨⟩ | ⟨⟩ := hw
    refine ⟨characters, recogniseAddition_append hw hopener (atLastClosing?_body hbody), ?_⟩
    simp [readAddition, hne]
  · obtain ⟨n, k, rfl⟩ := eq_length_of_name hname
    obtain ⟨⟩ | ⟨hlength, hw⟩ | ⟨⟩ := hw
    exact ⟨_, (assignment_eq_some_iff (by decide)).mpr ⟨w, _, _, hw, rfl, rfl⟩,
      readLength_of_isLength hlength⟩
  · obtain rfl := eq_select_of_name hname
    obtain ⟨⟩ | ⟨⟩ | ⟨hw⟩ := hw
    exact ⟨[], (flag_eq_some_iff (isName_of_mem (select chosen).name_mem)).mpr
      ⟨w, _, hw, rfl, rfl⟩, rfl⟩

/-- A rule handles what is written if additions are its own or do not come later. -/
theorem handles_of_mem {rule : Rule StringModifier} (hrule : rule ∈ rules) {later : List String}
    (hlater : rule.name ≠ "include" → "include" ∉ later) : rule.Handles writing later where
  braced := (opens_of_mem hrule).braced
  own := by
    intro m w ms body hname hw hbody
    exact ⟨IsWritten.ne_nil hw,
      recognise_written hrule hname hw (isBody_writing_iff.mp hbody)⟩
  other := by
    intro m w hmem hname hw rest
    have hplain : m.added? = none := by
      rw [added?_eq_none_iff]
      intro hinclude
      exact hlater (fun h => hname (hinclude.trans h.symm)) (hinclude ▸ hmem)
    have hrule' : rule.name ∈ rules.map Rule.name := List.mem_map_of_mem hrule
    obtain ⟨lead, s, tail, hlead, hs, rfl, htail, -⟩ := IsWritten.plain hw hplain
    exact (opens_of_mem hrule).split_append (isName_of_mem m.name_mem) hs hlead
      (not_prefix_of_ne hrule' m.name_mem (Ne.symm hname))
      (not_prefix_of_ne m.name_mem hrule' hname) htail rest

theorem handled_rules : Rule.Handled writing rules := by
  constructor
  · exact handles_of_mem List.mem_cons_self fun hname => absurd rfl hname
  · apply Rule.handled_of_forall fun _ => List.mem_map_of_mem
    intro rule hrule
    exact handles_of_mem (List.mem_cons_of_mem _ hrule) fun _ => by decide

/-- What a table of rules gathers from modifiers: the values of each rule in order. -/
def gathered (table : List (Rule StringModifier)) (ms : List StringModifier) :
    List StringModifier :=
  table.flatMap fun rule => ms.filter (·.name = rule.name)

end FixtureKeywords.StringModifier
