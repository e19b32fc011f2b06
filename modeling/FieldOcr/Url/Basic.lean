/-!
# Addresses

An absolute address in parts.  Every part is in its written form, so that the
text of an address is put together from its parts without encoding anything.
-/

namespace FieldOcr

/-- An absolute address. -/
structure Url where
  /-- The scheme in lower case. -/
  scheme : List Char
  /-- The user name. -/
  username : List Char := []
  /-- The password. -/
  password : Option (List Char) := none
  /-- The host; absent where the scheme is followed by a path only. -/
  host : Option (List Char) := none
  /-- The port, if it is not the one that the scheme implies. -/
  port : Option Nat := none
  /-- The path. -/
  path : List Char := []
  /-- The query without its question mark. -/
  query : Option (List Char) := none
  /-- The fragment without its number sign. -/
  fragment : Option (List Char) := none
  deriving DecidableEq, Repr

namespace Url

/-- The schemes whose addresses have a host and a hierarchical path. -/
def isSpecialScheme (scheme : List Char) : Bool :=
  ["http", "https", "ws", "wss", "ftp", "file"].any fun special =>
    special.toList == scheme

/-- The port that a scheme implies. -/
def impliedPort? (scheme : List Char) : Option Nat :=
  if scheme == "http".toList || scheme == "ws".toList then some 80
  else if scheme == "https".toList || scheme == "wss".toList then some 443
  else if scheme == "ftp".toList then some 21
  else none

/-- Whether an address is one of the web. -/
def isWeb (url : Url) : Bool :=
  url.scheme == "http".toList || url.scheme == "https".toList

/-- The user name and password in front of a host. -/
def renderUserinfo (url : Url) : List Char :=
  match url.username, url.password with
  | [], none => []
  | username, none => username ++ ['@']
  | username, some password => username ++ ':' :: password ++ ['@']

/-- What stands between the scheme and the path. -/
def renderAuthority (url : Url) : List Char :=
  match url.host with
  | none => if "//".toList.isPrefixOf url.path then "/.".toList else []
  | some host =>
      "//".toList ++ url.renderUserinfo ++ host ++
        (match url.port with
        | none => []
        | some port => ':' :: Nat.toDigits 10 port)

/-- A part behind its mark, if there is one. -/
def renderPart (mark : Char) : Option (List Char) -> List Char
  | none => []
  | some part => mark :: part

/-- The text of an address. -/
def toText (url : Url) : List Char :=
  url.scheme ++ ':' :: url.renderAuthority ++ url.path ++
    renderPart '?' url.query ++ renderPart '#' url.fragment

/-- An address as a string. -/
def render (url : Url) : String :=
  String.ofList url.toText

/-- An address without its query and fragment. -/
def withoutQuery (url : Url) : Url :=
  { url with query := none, fragment := none }

/-- An address without its user name and password. -/
def withoutUserinfo (url : Url) : Url :=
  { url with username := [], password := none }

end Url
end FieldOcr
