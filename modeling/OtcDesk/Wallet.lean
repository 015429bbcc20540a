import OtcDesk.Bytes.Hex
import OtcDesk.DeskError
import OtcDesk.Text.Blank

namespace OtcDesk.Wallet

/-- A character is a hexadecimal digit of either case. -/
def isDigit (c : Char) : Bool := (Hex.digit? c).isSome

/-- The pattern of an address may end where the text ends, or before the line feed that ends it. -/
def isEnd (rest : List Char) : Bool := rest.isEmpty || rest == ['\n']

/-- The characters match the pattern of an address: its mark, forty digits, and the end. -/
def matchesPattern : List Char → Bool
  | '0' :: 'x' :: rest =>
    (rest.take 40).length == 40 && (rest.take 40).all isDigit && isEnd (rest.drop 40)
  | _ => false

/-- The address that a text gives, blanks around it apart, in lower case. -/
def normalize (address : Option String) : Except DeskError String :=
  let value := Text.trimWhere Text.isBlank (address.getD "").toList
  if matchesPattern value then .ok (String.ofList (value.map Char.toLower))
  else
    .error <| .refused "INVALID_WALLET_ADDRESS" <|
      "invalid wallet address: " ++ (address.map Text.quoted).getD "None"

end OtcDesk.Wallet
