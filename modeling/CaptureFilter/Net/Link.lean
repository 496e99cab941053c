import CaptureFilter.Text.Cut
import CaptureFilter.Text.Numeral

/-!
# Link-layer and transport tokens

The forms of hardware addresses, ethertypes and port numbers. Each row of digits may be followed by
one line feed.
Spec guidance: `SPEC_FULL.md` §6 (`is_mac_address`, `is_ethertype`, `is_port`).
-/

namespace CaptureFilter.Net

open Text

/-- Whether a text is one octet of a hardware address: one or two hexadecimal digits. Supports
`_HEX_GROUP`. -/
def isMacOctet (s : List Char) : Bool :=
  let digits := dropFinalLineFeed s
  (digits.length == 1 || digits.length == 2) && digits.all isHexDigit

/-- Whether a text is a hardware address of six octets between colons, or with `leading` of one to
six. Supports `is_mac_address`. -/
def isMac (leading : Bool) (s : String) : Bool :=
  let octets := s.toList.splitOn ':'
  octets.all isMacOctet && (if leading then octets.length ≤ 6 else octets.length == 6)

/-- Whether a text is an ethertype: `0x` and one to four hexadecimal digits. Supports
`is_ethertype`. -/
def isEthertype (s : String) : Bool :=
  match s.toList with
  | '0' :: 'x' :: rest =>
    let digits := dropFinalLineFeed rest
    1 ≤ digits.length && digits.length ≤ 4 && digits.all isHexDigit
  | _ => false

/-- Whether a text is a port number: decimal digits of a value from 1 to 65535. Supports
`is_port`. -/
def isPort (s : String) : Except Numeral.Error Bool :=
  let digits := dropFinalLineFeed s.toList
  if isNumber digits then do
    let n ← Numeral.read digits
    return 1 ≤ n && n ≤ 65535
  else return false

end CaptureFilter.Net
