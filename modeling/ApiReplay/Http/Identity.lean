import ApiReplay.Http.Message
import ApiReplay.Http.Url
import ApiReplay.Text.Base64
import ApiReplay.Text.Utf8

/-!
# Users

A user of a server is identified by a name and a password in a header. An address may name them.

## Main definitions

* `Http.basicHeader`, `Http.userHeader`: the header of a user.
-/

namespace ApiReplay.Http

/-- The header that identifies a user by name and password. -/
def basicHeader (user password : List Char) : Header :=
  let login := Text.encode (user ++ ':' :: password)
  ("authorization", "Basic " ++ String.ofList (Text.base64 login))

/-- The header of a user that an address names. -/
def userHeader : Option (List Char × Option (List Char)) → List Header
  | none => []
  | some (user, password) =>
    let plain := fun (text : List Char) => Text.decodeLossy (unescape text)
    [basicHeader (plain user) (plain (password.getD []))]

end ApiReplay.Http
