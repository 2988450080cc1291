import LinkGauge.Http.Target
import LinkGauge.Service

/-!
# Handshakes

A client opens a subtest with a request for its path that upgrades the connection to a
WebSocket and offers the subprotocol. The checks come in a fixed order, and the first one
that fails gives the answer. The answer closes the connection when the request asked for
that.
-/

namespace LinkGauge.Http

/-- A request without its body. -/
structure Request where
  method : String
  target : String
  /-- Names with values, in the order in which they were sent. -/
  headers : List (String × List UInt8) := []

/-- Why a request opens no subtest. -/
inductive Refusal where
  /-- It is not a request. -/
  | malformed
  | unknownPath
  /-- The method is not the one for reading. -/
  | wrongMethod
  /-- The method is the one for reading without content. -/
  | headMethod
  /-- It does not ask for a WebSocket. -/
  | noUpgrade
  | noSubprotocol
  deriving DecidableEq, Repr

/-- A subtest that a client has opened. -/
structure Opening where
  subtest : Subtest
  /-- The pairs of the client's query. -/
  query : List (String × String)
  deriving Repr

/-- What a request is answered. -/
structure Response where
  status : Nat
  connection : Option String := none
  upgrade : Option String := none
  subprotocol : Option String := none
  allow : Option String := none
  deriving DecidableEq, Repr

namespace Request

/-- Whether a character may stand in a method or in the name of a header. -/
def isTokenChar (c : Char) : Bool :=
  c.isAlphanum || "!#$%&'*+-.^_|~".toList.contains c || c.toNat = 0x60

/-- Whether a text is a token. -/
def isToken (text : String) : Bool := !text.isEmpty && text.toList.all isTokenChar

/-- Whether a byte may stand in the value of a header. -/
def isValueByte (b : UInt8) : Bool := b == 9 || (32 ≤ b && b ≠ 127)

/-- Whether method and headers have the form of a request. -/
def isFormed (r : Request) : Bool :=
  isToken r.method && r.headers.all fun header => isToken header.1 && header.2.all isValueByte

/-- A value without the spaces and tabs around it. -/
def trimmedValue (value : List UInt8) : List UInt8 :=
  let isGap (b : UInt8) : Bool := b == 32 || b == 9
  ((value.dropWhile isGap).reverse.dropWhile isGap).reverse

/-- The values of a header, whose name is given in lower case. -/
def values (r : Request) (name : String) : List (List UInt8) :=
  (r.headers.filter fun header => header.1.toLower == name).map fun header =>
    trimmedValue header.2

/-- A byte with a capital letter of ASCII replaced by the small one. -/
def smallByte (b : UInt8) : UInt8 := if 65 ≤ b ∧ b ≤ 90 then b + 32 else b

/-- Whether a sequence occurs in another one without a gap. -/
def occursIn (part : List UInt8) : List UInt8 → Bool
  | [] => part.isEmpty
  | b :: rest => part.isPrefixOf (b :: rest) || occursIn part rest

/-- Whether the first value of a header is the given text, in either case of letters. -/
def firstIs (r : Request) (name text : String) : Bool :=
  (r.values name).head?.any fun value => value.map smallByte == Text.utf8 text

/-- Whether the connection is to be upgraded. -/
def asksForUpgrade (r : Request) : Bool :=
  (r.values "connection").head?.any fun value =>
    (Text.ofUtf8? value).isSome && occursIn (Text.utf8 "upgrade") (value.map smallByte)

/-- Whether the request asks for a WebSocket. -/
def asksForWebSocket (r : Request) : Bool :=
  r.asksForUpgrade && r.firstIs "upgrade" "websocket" &&
    !(r.values "sec-websocket-key").isEmpty && r.firstIs "sec-websocket-version" "13"

/-- Whether a value has an option among its elements. -/
def hasOption (option : String) (value : List UInt8) : Bool :=
  (Service.plainText? value).any fun text =>
    (Service.elements text).any fun element => (String.ofList element).toLower == option

/-- Whether the connection may stay open; each value of the header can change that. -/
def keepsAlive (r : Request) : Bool :=
  (r.values "connection").foldl
    (fun alive value => if alive then !hasOption "close" value else hasOption "keep-alive" value)
    true

/-- The subtest that a request opens, or why it opens none. -/
def opening (r : Request) : Except Refusal Opening :=
  match if r.isFormed then Target.ofText? r.target else none with
  | none => .error .malformed
  | some target =>
    match Service.ofPath? target.path with
    | none => .error .unknownPath
    | some subtest =>
      if r.method = "HEAD" then .error .headMethod
      else if r.method ≠ "GET" then .error .wrongMethod
      else if !r.asksForWebSocket then .error .noUpgrade
      else if !Service.isOffered (r.values "sec-websocket-protocol") then .error .noSubprotocol
      else .ok { subtest, query := queryPairs target.query }

end Request

namespace Response

/-- The answer to a request that opens no subtest. -/
def ofRefusal : Refusal → Response
  | .malformed => { status := 400, connection := some "close" }
  | .unknownPath => { status := 404 }
  | .wrongMethod => { status := 405, allow := some "GET,HEAD" }
  | .headMethod => { status := 405 }
  | .noUpgrade => { status := 400 }
  | .noSubprotocol => { status := 400, connection := some "close" }

/-- The answer to a request that opens a subtest. -/
def accepted : Response where
  status := 101
  connection := some "upgrade"
  upgrade := some "websocket"
  subprotocol := some Service.subprotocol

/-- The headers of an answer that tell how it was decided. -/
def headers (r : Response) : List (String × String) :=
  let field (name : String) (value : Option String) : List (String × String) :=
    (value.map fun text => (name, text)).toList
  field "connection" r.connection ++ field "upgrade" r.upgrade ++
    field "sec-websocket-protocol" r.subprotocol ++ field "allow" r.allow

/-- The answer to a request. -/
def ofRequest (r : Request) : Response :=
  let response :=
    match r.opening with
    | .ok _ => accepted
    | .error refusal => ofRefusal refusal
  if r.keepsAlive then response else { response with connection := some "close" }

end Response

end LinkGauge.Http
