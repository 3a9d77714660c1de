/-!
# Case maps

A map of code points is a list of runs. A run moves every point from its first to its last, in
strides of its step, by one shift.
-/

namespace Attest.Unicode

/-- Runs of first point, last point, step and shift. -/
abbrev CaseMap := List (Nat × Nat × Nat × Int)

/-- The image of a point; a point in no run stays. -/
def CaseMap.apply (map : CaseMap) (point : Nat) : Nat :=
  match map.find? fun (first, last, step, _) =>
      first ≤ point && point ≤ last && (point - first) % step == 0 with
  | some (_, _, _, shift) => (point + shift).toNat
  | none => point

/-- Points that a run moves to `image`. -/
def CaseMap.preimage (map : CaseMap) (image : Nat) : List Nat :=
  map.filterMap fun (first, last, step, shift) =>
    let point := (image - shift).toNat
    if first ≤ point && point ≤ last && (point - first) % step == 0 then some point else none

end Attest.Unicode
