import FixtureKeywords.Fault
import FixtureKeywords.Random.DrawProgram

/-!
# Single requests

Requests made one at a time, outside a generator. Nothing rules out beforehand
that such a request cannot be met: bounds in the wrong order or no item to choose
are faults.
-/

namespace FixtureKeywords.DrawProgram

/-- Draws an integer between two bounds, both included. -/
def integer (low high : Int) : Except Fault (DrawProgram Int) :=
  if h : low ≤ high then .ok (between low high h) else .error .emptyDraw

def choice (items : List α) : Except Fault (DrawProgram α) :=
  if h : 0 < items.length then
    .ok (ask (.pick items.length h) fun k => done (items.get k))
  else .error .emptyChoice

end FixtureKeywords.DrawProgram
