import TemplateCompiler.Value

/-! The order of the numbers in a set. A set is a table of slots; a number goes into the slot of
its code or, where that is taken, into the first free one on its way, and the set is written slot
by slot. Items that are no numbers have no such order and stay as they come. -/

namespace TemplateCompiler.SlotOrder

def modulus : Nat := (1 <<< 61) - 1

def code? (v : Value) : Option Int :=
  (v.number?).map fun (m, e) =>
    let size : Int := m.natAbs * Nat.pow 2 (e.emod 61).toNat % modulus
    let code := if m < 0 then -size else size
    if code = -1 then -2 else code

def powerAbove (n : Nat) : Nat := if n < 8 then 8 else 1 <<< n.log2 <<< 1

def tableSize (count : Nat) : Nat := if count < 5 then 8 else powerAbove (2 * count)

/-- The slots that are tried before the way leads on: ten in a row where there are so many. -/
def rowAt (size slot : Nat) : List Nat :=
  if slot + 9 < size then (List.range 10).map (slot + ·) else [slot]

def freeSlot (size : Nat) (taken : List Nat) : (steps slot rest : Nat) → Nat
  | 0, slot, _ => slot
  | steps + 1, slot, rest =>
    match (rowAt size slot).find? fun s => !taken.contains s with
    | some s => s
    | none => freeSlot size taken steps ((slot * 5 + 1 + rest / 32) % size) (rest / 32)

def word (code : Int) : Nat := (code.emod (1 <<< 64)).toNat

structure Entry where
  slot : Nat
  code : Int
  item : Value

structure Table where
  size : Nat
  entries : List Entry

namespace Table

def empty (size : Nat) : Table := ⟨size, []⟩

def put (t : Table) (code : Int) (item : Value) : Table :=
  let taken := t.entries.map Entry.slot
  let slot := freeSlot t.size taken (t.size + 64) (word code % t.size) (word code)
  { t with entries := ⟨slot, code, item⟩ :: t.entries }

def inOrder (t : Table) : List Entry := t.entries.mergeSort fun a b => a.slot ≤ b.slot

def grow (t : Table) : Table :=
  let used := t.entries.length
  if used * 5 < (t.size - 1) * 3 then t
  else t.inOrder.foldl (fun t e => t.put e.code e.item)
    (empty (powerAbove (if 50000 < used then used * 2 else used * 4)))

end Table

def arranged (fill : List (Int × Value) → Table) (items : List Value) : List Value :=
  match items.mapM code? with
  | none => items
  | some codes => (fill (codes.zip items)).inOrder.map Entry.item

/-- The items of a set as they are written, where all came at once. -/
def order (items : List Value) : List Value :=
  arranged (fun coded => coded.foldl (fun t e => t.put e.1 e.2) (.empty (tableSize coded.length)))
    items

/-- The items of a set as they are written, where one came after the other. -/
def orderOneByOne (items : List Value) : List Value :=
  arranged (fun coded => coded.foldl (fun t e => (t.put e.1 e.2).grow) (.empty (tableSize 0))) items

end TemplateCompiler.SlotOrder
