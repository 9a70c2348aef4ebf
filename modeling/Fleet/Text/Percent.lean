import Fleet.Text.Digits

/-!
# Escapes in addresses

In an address a percent sign and two hexadecimal digits stand for one octet. The octets of a text
are those of its encoding in UTF-8.
-/

namespace Fleet.Text

/-- The octets of a character. -/
def octets (character : Char) : List UInt8 :=
  (String.singleton character).toUTF8.toList

/-- The octets that a text with escapes stands for. A percent sign that two hexadecimal digits do
not follow stands for itself. -/
def unescapedOctets : List Char → List UInt8
  | [] => []
  | '%' :: high :: low :: after =>
      match hexValue? high, hexValue? low with
      | some high, some low => UInt8.ofNat (16 * high + low) :: unescapedOctets after
      | _, _ => octets '%' ++ unescapedOctets (high :: low :: after)
  | character :: rest => octets character ++ unescapedOctets rest

/-- The text that a text with escapes stands for, if its octets are the encoding of one. -/
def unescape? (text : String) : Option String :=
  String.fromUTF8? (ByteArray.mk (unescapedOctets text.toList).toArray)

end Fleet.Text
