/-!
# Draw programs

A generator does not hold a source of random numbers. It is a finite program of
requests: each request is either an integer between two bounds or a choice among
a number of items, and what follows may depend on the number drawn. The request
carries the proof that it can be met, and the program gets the drawn number as
an index below the size of the request. Which requests are made is then a
property of the program, whichever source answers them.

`run` answers a program from a source, `draws` lists the requests that a run
makes, in order.
-/

namespace FixtureKeywords

/-- A request to a source of random numbers. -/
inductive Draw where
  | between (low high : Int) (ordered : low ≤ high)
  | pick (count : Nat) (positive : 0 < count)

namespace Draw

/-- The number of different answers to a request. -/
@[reducible]
def span : Draw → Nat
  | between low high _ => (high - low + 1).toNat
  | pick count _ => count

theorem span_pos (d : Draw) : 0 < d.span := by
  cases d with
  | between low high ordered => simp only [span]; omega
  | pick count positive => exact positive

end Draw

/-- A finite program of requests that ends in a value. -/
inductive DrawProgram (α : Type) : Type where
  | done (value : α)
  | ask (request : Draw) (next : Fin request.span → DrawProgram α)

/-- A source answers every request with an index below its size. -/
structure Source (σ : Type) where
  below : (n : Nat) → 0 < n → σ → Fin n × σ

namespace DrawProgram

/-- Continues a program with its value. -/
def bind : DrawProgram α → (α → DrawProgram β) → DrawProgram β
  | done value, f => f value
  | ask request next, f => ask request fun k => (next k).bind f

/-- Applies a function to the value of a program. -/
def map (f : α → β) : DrawProgram α → DrawProgram β
  | done value => done (f value)
  | ask request next => ask request fun k => (next k).map f

instance : Monad DrawProgram where
  pure := done
  bind := bind

/-- Draws an integer between two bounds, both included. -/
def between (low high : Int) (ordered : low ≤ high) : DrawProgram Int :=
  ask (.between low high ordered) fun k => done (low + k.val)

/-- Chooses `count` items one after the other, with replacement, and puts them
behind those in `taken`, which holds them last first. -/
def pickOnto (items : Array α) (positive : 0 < items.size) : Nat → List α → DrawProgram (List α)
  | 0, taken => done taken.reverse
  | count + 1, taken =>
      ask (.pick items.size positive) fun (k : Fin items.size) =>
        pickOnto items positive count (items[k] :: taken)

/-- Chooses `count` items one after the other, with replacement. -/
def pickMany (items : Array α) (positive : 0 < items.size) (count : Nat) :
    DrawProgram (List α) :=
  pickOnto items positive count []

/-- Runs a program `count` times and puts the values behind those in `before`,
which holds them last first. -/
def repeatedOnto (program : DrawProgram α) : Nat → List α → DrawProgram (List α)
  | 0, before => done before.reverse
  | count + 1, before => program.bind fun value => repeatedOnto program count (value :: before)

/-- Runs a program `count` times and lists the values. -/
def repeated (program : DrawProgram α) (count : Nat) : DrawProgram (List α) :=
  repeatedOnto program count []

def run (source : Source σ) : DrawProgram α → σ → α × σ
  | done value, state => (value, state)
  | ask request next, state =>
      let (k, state) := source.below request.span request.span_pos state
      (next k).run source state

/-- The requests that a run of a program makes, in order. -/
def draws (source : Source σ) : DrawProgram α → σ → List Draw
  | done _, _ => []
  | ask request next, state =>
      let (k, state) := source.below request.span request.span_pos state
      request :: (next k).draws source state

theorem bind_done (p : DrawProgram α) : p.bind done = p := by
  induction p with
  | done value => rfl
  | ask request next ih => simp [bind, ih]

theorem bind_assoc (p : DrawProgram α) (f : α → DrawProgram β) (g : β → DrawProgram γ) :
    (p.bind f).bind g = p.bind fun a => (f a).bind g := by
  induction p with
  | done value => rfl
  | ask request next ih => simp [bind, ih]

theorem map_eq_bind (p : DrawProgram α) (f : α → β) : p.map f = p.bind fun a => done (f a) := by
  induction p with
  | done value => rfl
  | ask request next ih => simp [map, bind, ih]

instance : LawfulMonad DrawProgram :=
  .mk' DrawProgram bind_done (fun _ _ => rfl) bind_assoc

/-- A run of a continued program is a run of the first part and then of the rest. -/
theorem run_bind (source : Source σ) (p : DrawProgram α) (f : α → DrawProgram β) (state : σ) :
    (p.bind f).run source state =
      (f (p.run source state).1).run source (p.run source state).2 := by
  induction p generalizing state with
  | done value => rfl
  | ask request next ih => simp only [bind, run, ih]

theorem run_map (source : Source σ) (p : DrawProgram α) (f : α → β) (state : σ) :
    (p.map f).run source state = (f (p.run source state).1, (p.run source state).2) := by
  induction p generalizing state with
  | done value => rfl
  | ask request next ih => simp only [map, run, ih]

theorem map_map (p : DrawProgram α) (f : α → β) (g : β → γ) :
    (p.map f).map g = p.map fun a => g (f a) := by
  induction p with
  | done value => rfl
  | ask request next ih => simp [map, ih]

theorem map_id (p : DrawProgram α) : (p.map fun a => a) = p := by
  induction p with
  | done value => rfl
  | ask request next ih => simp [map, ih]

theorem draws_map (source : Source σ) (p : DrawProgram α) (f : α → β) (state : σ) :
    (p.map f).draws source state = p.draws source state := by
  induction p generalizing state with
  | done value => rfl
  | ask request next ih => simp only [map, draws, ih]

end DrawProgram

end FixtureKeywords
