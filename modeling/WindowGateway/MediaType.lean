import WindowGateway.Text.Blank

/-! Media types, as a content type header names them. Parameters and the case of letters play no
part. -/

namespace WindowGateway

/-- The two parts of a media type, in lower case. -/
structure MediaType where
  top : String
  subtype : String
  deriving DecidableEq, Repr

namespace MediaType

/-- Whether a character may stand in a token: an ASCII letter or digit, or one of a few signs. -/
def isTokenChar (c : Char) : Bool :=
  c.isAlphanum || "!#$%&'*+-.^_`|~".toList.contains c

def isToken (cs : List Char) : Bool := !cs.isEmpty && cs.all isTokenChar

/-- The part of a header value that names the media type: what stands before the first semicolon,
without the blanks around it. -/
def essence (s : String) : List Char := Text.stripped (s.toList.takeWhile (· ≠ ';'))

def parse? (s : String) : Option MediaType :=
  let cs := essence s
  match cs.dropWhile (· ≠ '/') with
  | [] => none
  | _ :: subtype =>
    let top := cs.takeWhile (· ≠ '/')
    if isToken top && isToken subtype then
      some ⟨String.ofList (top.map Char.toLower), String.ofList (subtype.map Char.toLower)⟩
    else none

def text (m : MediaType) : String := m.top ++ "/" ++ m.subtype

/-- What is said of a header value that names no media type. -/
def invalidMessage (s : String) : String := s!"'{s}' is not a media type"

end MediaType

/-- What a payload holds: a framed batch of documents, or one document. -/
inductive Framing
  | batch
  | document
  deriving DecidableEq, Repr

namespace Framing

def all : List Framing := [batch, document]

/-- The header value for a payload of this kind. -/
def contentType : Framing → String
  | batch => "multipart/json"
  | document => "application/json"

/-- Whether a media type stands for this kind of payload. -/
def accepts (f : Framing) (m : MediaType) : Bool :=
  let top := match f with
    | batch => "multipart"
    | document => "application"
  m.top == top && m.subtype == "json"

def ofMediaType? (m : MediaType) : Option Framing := all.find? (·.accepts m)

end Framing

end WindowGateway
