import CommandBridge.Http.Target
import CommandBridge.Text.Basic

/-! Requests to the bridge and its answers, as far as they carry meaning for it. -/
namespace CommandBridge.Http

structure Header where
  name : String
  value : Bytes

/-- The value of a header as text, if it holds nothing but printable ASCII and tabs. -/
def valueText? (value : Bytes) : Option (List Char) :=
  if value.all fun b => b = Octet.tab || (0x20 ≤ b && b < 0x7F) then
    some (value.map fun b => Char.ofNat b.toNat)
  else none

structure Request where
  method : String
  target : Target
  headers : List Header
  body : Bytes

namespace Request

def path (r : Request) : List Char := r.target.path

def header? (r : Request) (name : String) : Option Bytes :=
  (r.headers.find? fun h => h.name == name).map (·.value)

def headerText? (r : Request) (name : String) : Option (List Char) :=
  (r.header? name).bind valueText?

def isLook (r : Request) : Bool := r.method == "GET" || r.method == "HEAD"

end Request

structure Response where
  status : Nat
  body : Bytes
  contentType : Option String
  allow : Option String
  location : Option String

namespace Response

def plainText : String := "text/plain; charset=utf-8"

def empty (status : Nat) : Response := ⟨status, [], none, none, none⟩

def ofText (status : Nat) (contentType body : String) : Response :=
  ⟨status, octets body, some contentType, none, none⟩

def text (status : Nat) (body : String) : Response := ofText status plainText body

def notAllowed (allowed : String) : Response := ⟨405, [], none, some allowed, none⟩

def headOnly (r : Response) : Response := { r with body := [] }

end Response

end CommandBridge.Http
