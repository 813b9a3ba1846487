import ExactAlgebra.Operand

/-!
# Stored objects

Values that are kept under names. What is kept is an object: it stays the same one under all its names
and in all lists that hold it, and a change of it shows at every place. So a store keeps the present
state of every object by its mark, and a value that is taken out is brought up to date first.

## Main definitions

* `Store`: objects and names.
* `Store.settle`: a value whose parts all have marks.
* `Store.present`: a value in its present state.
* `Store.keep`, `Store.find?`: storing a value under a name, and finding it again.
* `Store.update`: changing an object.
-/

namespace ExactAlgebra

/-- Objects, and the names under which some of them are kept. -/
structure Store where
  /-- The objects in their present state, each at the place of its mark. -/
  objects : Array Operand
  /-- The values by name, the latest first. -/
  names : List (String × Operand)

namespace Store

/-- The store that keeps nothing. -/
def empty : Store := ⟨#[], []⟩

instance : Inhabited Store := ⟨empty⟩

/-! ## Marks -/

/-- A new object: its state as a function of its mark. -/
def create (state : Mark → Operand) (objects : Array Operand) : Operand × Array Operand :=
  let v := state (some objects.size)
  (v, objects.push v)

mutual

/-- The value with a mark on every part that may have one. -/
def settleIn (objects : Array Operand) (v : Operand) : Operand × Array Operand :=
  match v with
  | .list xs none =>
    let (ys, objects) := settleAll objects xs
    create (.list ys) objects
  | .tuple xs =>
    let (ys, objects) := settleAll objects xs
    (.tuple ys, objects)
  | .double bits none => create (.double bits) objects
  | .single bits none => create (.single bits) objects
  | .doublePair re im none => create (.doublePair re im) objects
  | .matrix m none => create (.matrix m) objects
  | .expression e none => create (.expression e) objects
  | .array t shape elements none => create (.array t shape elements) objects
  | v => (v, objects)

/-- The values with marks on every part that may have one. -/
def settleAll (objects : Array Operand) (xs : List Operand) : List Operand × Array Operand :=
  match xs with
  | [] => ([], objects)
  | x :: xs =>
    let (y, objects) := settleIn objects x
    let (ys, objects) := settleAll objects xs
    (y :: ys, objects)

end

/-- The value with a mark on every part that may have one, and the store with the new objects. -/
def settle (s : Store) (v : Operand) : Operand × Store :=
  let (v, objects) := settleIn s.objects v
  (v, { s with objects })

/-! ## Present states -/

/-- The state of the object of a mark; a value without one is its own state. -/
def state (objects : Array Operand) (v : Operand) : Operand :=
  match v.mark with
  | some i => objects[i]?.getD v
  | none => v

/-- A value in its present state, together with its parts. An object that holds itself is not followed a
second time. `within` are the marks of the lists around the value, and `fuel` bounds their depth. -/
def presentIn (objects : Array Operand) : (fuel : Nat) → (within : List Nat) → Operand → Operand
  | 0, _, v => v
  | fuel + 1, within, v =>
    match state objects v with
    | .list xs none => .list (xs.map (presentIn objects fuel within)) none
    | .list xs (some i) =>
      if within.contains i then .list xs (some i)
      else .list (xs.map (presentIn objects fuel (i :: within))) (some i)
    | .tuple xs => .tuple (xs.map (presentIn objects fuel within))
    | v => v

/-- How deep lists are followed. -/
def greatestDepth : Nat := 100000

/-- A value in its present state, together with its parts. -/
def present (s : Store) (v : Operand) : Operand :=
  presentIn s.objects greatestDepth [] v

/-! ## Names -/

/-- The store with a value under a name. -/
def keep (s : Store) (name : String) (v : Operand) : Store :=
  let (v, s) := s.settle v
  { s with names := (name, v) :: s.names }

/-- The value under a name, in its present state. -/
def find? (s : Store) (name : String) : Option Operand :=
  (s.names.lookup name).map s.present

/-- The store after a change of an object. A value without a mark is not kept, so nothing changes. -/
def update (s : Store) (object : Operand) (state : Mark → Operand) : Store :=
  match object.mark with
  | some i => { s with objects := s.objects.set! i (state (some i)) }
  | none => s

end Store

end ExactAlgebra
