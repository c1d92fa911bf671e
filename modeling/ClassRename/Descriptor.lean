namespace ClassRename.Descriptor

inductive Place where
  | argument
  | element
  | className
deriving Repr, DecidableEq

def slotsFrom (slots : UInt32) : Place → List Char → UInt32
  | .argument, [] => slots
  | .element, [] | .className, [] => slots
  | .argument, c :: rest =>
    if c = ')' then slots
    else if c = 'J' ∨ c = 'D' then slotsFrom (slots + 2) .argument rest
    else if c = 'L' then slotsFrom (slots + 1) .className rest
    else if c = '[' then slotsFrom (slots + 1) .element rest
    else slotsFrom (slots + 1) .argument rest
  | .element, c :: rest =>
    if c = '[' then slotsFrom slots .element rest
    else if c = 'L' then slotsFrom slots .className rest
    else slotsFrom slots .argument rest
  | .className, c :: rest =>
    slotsFrom slots (if c = ';' then .argument else .className) rest

-- One slot for the receiver, then the arguments; the first character is taken to be the
-- opening parenthesis. A count that needs more than a byte is shown as 255.
def interfaceArgumentCount (descriptor : String) : UInt8 :=
  let slots := slotsFrom 1 .argument (descriptor.toList.drop 1)
  if slots ≤ 255 then slots.toUInt8 else 255

end ClassRename.Descriptor
