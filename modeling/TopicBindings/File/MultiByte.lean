import TopicBindings.File.Gap
import TopicBindings.File.Grid

/-!
Character sets with several bytes to most characters. A set has one or more modes, and the first one is in
force where a text begins. A character is written in the first mode that has it, and where this is another mode
than before, the bytes that open the mode come in front. Some pairs of characters are written as one.
-/

namespace TopicBindings.File

abbrev Layer := Char → Option (List UInt8)

namespace Layer

def ascii : Layer := fun c =>
  if c.toNat < 0x80 then some [c.toNat.toUInt8] else none

def ofGrid (grid : Grid) (form : Cell → List UInt8) : Layer := fun c =>
  (grid.cell? c).map form

def ofList (entries : List (Char × List UInt8)) : Layer := fun c =>
  entries.lookup c

def first (layers : List Layer) : Layer := fun c =>
  layers.findSome? fun layer => layer c

end Layer

structure Coding where
  single : Layer
  pair : Char → Char → Option (List UInt8)

namespace Coding

def ofLayers (layers : List Layer) : Coding :=
  ⟨.first layers, fun _ _ => none⟩

def pairsOf (pairs : List (Char × Char × Cell)) (form : Cell → List UInt8) (c d : Char) :
    Option (List UInt8) :=
  (pairs.find? fun (a, b, _) => a == c && b == d).map fun (_, _, cell) => form cell

end Coding

/-- A part of a set. The bytes `once` come before its first use, `opening` wherever it gets in force. -/
structure Mode where
  once : List UInt8
  opening : List UInt8
  coding : Coding

structure MultiByte where
  name : String
  modes : List Mode

namespace MultiByte

def plain (name : String) (coding : Coding) : MultiByte :=
  ⟨name, [⟨[], [], coding⟩]⟩

structure Written where
  mode : Nat
  bytes : List UInt8

def written? (set : MultiByte) (bytes? : Coding → Option (List UInt8)) : Option Written :=
  set.modes.zipIdx.findSome? fun (mode, i) => (bytes? mode.coding).map fun bytes => ⟨i, bytes⟩

def switch (set : MultiByte) (current : Nat) (used : List Nat) (next : Nat) : List UInt8 :=
  if next = current then []
  else match set.modes[next]? with
    | some mode => (if used.contains next then [] else mode.once) ++ mode.opening
    | none => []

def encodeFrom (set : MultiByte) (current : Nat) (used : List Nat) (position : Nat) :
    List Char → Except Gap (List UInt8)
  | [] => .ok []
  | [c] => match set.written? fun coding => coding.single c with
    | some w => .ok (set.switch current used w.mode ++ w.bytes)
    | none => .error ⟨position, 1, c⟩
  | c :: d :: rest => match set.written? fun coding => coding.pair c d with
    | some w => (encodeFrom set w.mode (w.mode :: used) (position + 2) rest).map fun more =>
        set.switch current used w.mode ++ w.bytes ++ more
    | none => match set.written? fun coding => coding.single c with
      | some w => (encodeFrom set w.mode (w.mode :: used) (position + 1) (d :: rest)).map fun more =>
          set.switch current used w.mode ++ w.bytes ++ more
      | none => .error ⟨position, 1, c⟩

def encode (set : MultiByte) (s : List Char) : Except Gap (List UInt8) :=
  set.encodeFrom 0 [0] 0 s

end MultiByte

end TopicBindings.File
