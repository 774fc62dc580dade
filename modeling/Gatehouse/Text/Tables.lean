import Gatehouse.Text.Utf8

/-!
# Tables of characters

Domain names beyond ASCII are normalized by tables of all the letters in the world, and texts in
encodings older than Unicode are read by tables too. The relay has neither: whoever runs it brings
them along, and whatever it does, it does with any tables.
-/

namespace Gatehouse

/-- Tables of characters: the ASCII form of a domain name, if it has one, and how bytes are read under
the label of an encoding, if it is one that takes a table. -/
class CharTables where
  domain? : List Char → Option (List Char)
  encoding? : String → Option (Bytes → String)

end Gatehouse
