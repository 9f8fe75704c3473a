import TableQuery.Cache.Distributed
import TableQuery.Config.Settings
import TableQuery.Text.Utf8

/-!
# A cache server and its client

The server keeps entries and answers commands over one connection; how it behaves can be set:
it may answer, refuse, answer too late, or break the connection off. The client signs in and
chooses a database in one go, and then sends the four commands of a shared cache, waiting for
each answer no longer than it is told to.

* `KeyServer.run`: what a command does and what comes back.
* `ServerLink.connect`: signing in.
* The instance of `DistributedTier` for `ServerLink`: the commands.
-/

namespace TableQuery

/-- How the server treats commands. -/
inductive ServerMode where
  | answers
  /-- Every command but signing in is refused. -/
  | refuses
  /-- Commands are run, but the answers come too late. -/
  | hangs
  /-- The next command breaks the connection off. -/
  | drops
deriving DecidableEq, Repr

/-- A server of keys and values. -/
structure KeyServer where
  address : String
  table : KeyTable
  mode : ServerMode
  /-- What must be given to sign in, if it matters. -/
  password : Option String
  /-- The commands received, the oldest first. -/
  log : List (List String)
  /-- The connection is broken. -/
  broken : Bool
deriving DecidableEq, Repr

/-- What a server gives back. -/
inductive ServerValue where
  | done
  | missing
  | text (value : String)
  | count (n : Nat)
  | list (items : List String)
deriving DecidableEq, Repr

/-- What comes back over the connection. -/
inductive ServerReply where
  | value (v : ServerValue)
  | refusal
  /-- The answer is kept back. -/
  | late
  | closed
deriving DecidableEq, Repr

namespace KeyServer

/-- A server without entries. -/
def make (address : String) (mode : ServerMode) (password : Option String) : KeyServer :=
  ⟨address, .empty, mode, password, [], false⟩

/-- What a command does to the entries. Any command that is not known is simply done. -/
def perform (table : KeyTable) : List String → ServerValue × KeyTable
  | ["GET", key] =>
    (match table.get? key with
      | some v => .text v
      | none => .missing, table)
  | ["SETEX", key, _, value] => (.done, table.insert key value)
  | "DEL" :: keys =>
    let (n, table) := table.eraseAll keys
    (.count n, table)
  | ["KEYS", pattern] => (.list (table.matching pattern), table)
  | _ => (.done, table)

/-- The command signs in with a wrong password. -/
def isDenied (s : KeyServer) : List String → Bool
  | ["AUTH", given] => s.password.any (· != given)
  | ["AUTH", _, given] => s.password.any (· != given)
  | _ => false

/-- Receives a command. What the client says about itself is not kept. -/
def run (s : KeyServer) (command : List String) : ServerReply × KeyServer :=
  if s.broken then (.closed, s)
  else
    let logged :=
      if command.head? == some "CLIENT" then s else { s with log := s.log ++ [command] }
    let (value, table) := perform s.table command
    match s.mode with
    | .drops => (.closed, { logged with broken := true })
    | .refuses =>
      if command.head? == some "AUTH" && !s.isDenied command then (.value .done, logged)
      else (.refusal, logged)
    | .hangs => (.late, { logged with table })
    | .answers =>
      if s.isDenied command then (.refusal, logged) else (.value value, { logged with table })

/-- Receives commands one behind the other, none of which waits for an answer. -/
def runAll (s : KeyServer) : List (List String) → List ServerReply × KeyServer
  | [] => ([], s)
  | command :: rest =>
    let (reply, s) := s.run command
    let (replies, s) := runAll s rest
    (reply :: replies, s)

/-- Forgets the commands received. -/
def clearLog (s : KeyServer) : KeyServer := { s with log := [] }

end KeyServer

/-! ## Addresses -/

/-- The two forms of the commands that sign in. -/
inductive ServerProtocol where
  | second
  /-- A greeting goes before everything, and signs in at once. -/
  | third
deriving DecidableEq, Repr

/-- The form that a word in an address means. -/
def ServerProtocol.ofWord? (word : String) : Option ServerProtocol :=
  if word = "2" ∨ word = "resp2" then some .second
  else if word = "3" ∨ word = "resp3" then some .third
  else none

/-- Where to connect and as whom. -/
structure ServerAddress where
  path : String
  protocol : ServerProtocol
  database : Int
  user : Option String
  password : Option String
deriving DecidableEq, Repr

namespace ServerAddress

/-- The bytes that the characters of an address stand for: a percent sign and two digits for
any byte, a plus sign for a blank. -/
def decodeBytes : List Char → List UInt8
  | [] => []
  | '%' :: a :: b :: rest =>
    match hexValue? a, hexValue? b with
    | some x, some y => UInt8.ofNat (16 * x + y) :: decodeBytes rest
    | _, _ => 0x25 :: decodeBytes (a :: b :: rest)
  | c :: rest => (if c = '+' then [0x20] else String.utf8EncodeChar c) ++ decodeBytes rest

/-- The text that the characters of an address stand for. -/
def decode (cs : List Char) : String := textOfBytes (decodeBytes cs)

/-- The named parts behind the question mark. -/
def parameters (query : List Char) : List (String × String) :=
  (splitAtEach '&' query).filterMap fun part =>
    if part.isEmpty then none
    else
      let name := part.takeWhile (· != '=')
      let value := part.drop (name.length + 1)
      some (decode name, decode value)

/-- The value given last for a name. -/
def parameter? (parts : List (String × String)) (name : String) : Option String :=
  (parts.reverse.find? (·.1 == name)).map (·.2)

/-- The characters of an address without controls and blanks at its ends, tabs and ends of
lines, and without the part behind a number sign. -/
def significantChars (url : String) : List Char :=
  let isEdge (c : Char) : Bool := c.toNat ≤ 0x20
  let inside := ((url.toList.dropWhile isEdge).reverse.dropWhile isEdge).reverse
  (inside.filter fun c => !(c == '\t' || c == '\n' || c == '\r')).takeWhile (· != '#')

/-- What stands behind a beginning, whose letters may be small or capital. -/
def after? (start : String) (cs : List Char) : Option (List Char) :=
  if start.toList.isPrefixOf (cs.map Char.toLower) then some (cs.drop start.length) else none

/-- Reads the address of a server on this machine: `redis+unix://` or `unix://`, the path, and
perhaps the database, protocol, user and password. Other addresses are out of reach. -/
def parse? (url : String) : Option ServerAddress := do
  let cs := significantChars url
  let rest ← (after? "redis+unix://" cs).or (after? "unix://" cs)
  let path := rest.takeWhile (· != '?')
  let parts := parameters (rest.drop (path.length + 1))
  let database ← match parameter? parts "db" with
    | none => some 0
    | some text => readInteger? minInt64 maxInt64 text.toList
  let protocol ← match parameter? parts "protocol" with
    | none => some .second
    | some word => ServerProtocol.ofWord? word
  some {
    path := String.ofList path
    protocol
    database
    user := parameter? parts "user"
    password := parameter? parts "pass" }

/-- The commands that sign in with a password, if there is one. -/
def signOn (a : ServerAddress) (password : Option String) : List (List String) :=
  match a.protocol, password with
  | .second, none => []
  | .second, some p => ["AUTH" :: a.user.toList ++ [p]]
  | .third, none => [["HELLO", "3"]]
  | .third, some p => [["HELLO", "3", "AUTH", a.user.getD "default", p]]

/-- The command that chooses the database, unless it is the first. -/
def choose (a : ServerAddress) : List (List String) :=
  if a.database = 0 then [] else [["SELECT", toString a.database]]

end ServerAddress

/-! ## The client -/

/-- A server with a client connected to it. -/
structure ServerLink where
  server : KeyServer
  commandTimeout : Duration
  /-- The last command was answered. -/
  connected : Bool
deriving DecidableEq, Repr

namespace ServerLink

/-- Sends the commands that open a connection, and what the client says about itself behind
them. Whether the server accepts that does not matter as long as it answers. -/
def signIn (limit : Duration) (server : KeyServer) (commands : List (List String)) :
    Except CacheFault Unit × KeyServer :=
  let about := [["CLIENT", "SETINFO"], ["CLIENT", "SETINFO"]]
  let (replies, server) := server.runAll (commands ++ about)
  let outcome :=
    if replies.contains .late then .error (.timeout limit)
    else if replies.contains .closed || (replies.take commands.length).contains .refusal then
      .error .refused
    else .ok ()
  (outcome, server)

/-- Connects as the settings say. A password of its own goes before that of the address. -/
def connect (c : DistributedConfig) (server : KeyServer) : Except CacheFault Unit × ServerLink :=
  let link (s : KeyServer) : ServerLink := ⟨s, c.commandTimeout, true⟩
  match ServerAddress.parse? c.url with
  | none => (.error .refused, link server)
  | some address =>
    if address.path != server.address then (.error .refused, link server)
    else
      let commands := address.signOn (c.password.or address.password) ++ address.choose
      let (outcome, server) := signIn c.connectTimeout server commands
      (outcome, link server)

/-- Sends a command and reads its answer. -/
def send {α : Type} (link : ServerLink) (command : List String) (read : ServerValue → Option α) :
    Except CacheFault α × ServerLink :=
  let (reply, server) := link.server.run command
  let answer := match reply with
    | .value v =>
      match read v with
      | some a => .ok a
      | none => .error .refused
    | .refusal | .closed => .error .refused
    | .late => .error (.timeout link.commandTimeout)
  (answer, { link with server, connected := answer matches .ok _ })

/-- Entries live for whole seconds, and for one at least. -/
instance : DistributedTier ServerLink where
  get _ key link := link.send ["GET", key] fun
    | .missing => some none
    | .text v => some (some v)
    | _ => none
  setEx _ key value ttl link :=
    link.send ["SETEX", key, toString (max ttl.seconds 1), value] fun
      | .done => some ()
      | _ => none
  del _ keys link :=
    if keys.isEmpty then (.ok 0, link)
    else link.send ("DEL" :: keys) fun
      | .count n => some n
      | _ => none
  keys _ pattern link := link.send ["KEYS", pattern] fun
    | .list items => some items
    | _ => none
  isConnected link := link.connected

end ServerLink

end TableQuery
