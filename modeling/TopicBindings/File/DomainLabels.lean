/-!
Texts as labels between dots, as the names of domains have them. A label has from one to 63 characters of ASCII.
What follows the last dot is held back, because its label is not complete.
-/

namespace TopicBindings.File.DomainLabels

def isDot (c : Char) : Bool :=
  c == '.' || c == '。' || c == '．' || c == '｡'

def labels? (label : List Char) : List Char → Option (List (List Char))
  | [] => some []
  | c :: rest =>
      if isDot c then
        if label.isEmpty || label.length > 63 then none
        else (labels? [] rest).map (label.reverse :: ·)
      else if c.toNat < 0x80 then labels? (c :: label) rest
      else none

def encode? (s : List Char) : Option (List UInt8) :=
  (labels? [] s).map fun labels => labels.flatMap fun label =>
    (label ++ ['.']).map fun c => c.toNat.toUInt8

end TopicBindings.File.DomainLabels
