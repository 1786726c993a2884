import Kessh.Lib.Ecma

set_option autoImplicit false

namespace Kessh

open Ecma

-- A number that is not an integer is kept by the text JavaScript prints for it:
-- the stores only compare, keep and print numbers.
inductive JsNumber where
  | int (n : Int)
  | other (text : JsString)
deriving DecidableEq, Repr

def JsNumber.toJsString : JsNumber → JsString
  | .int n => decimalInt n
  | .other text => text

def JsNumber.falsy : JsNumber → Bool
  | .int n => n == 0
  | .other text => text == js "NaN"

-- TypeError is what calling a missing method throws; its text is the engine's.
inductive JsError where
  | error (message : JsString)
  | typeError
deriving DecidableEq, Repr

structure TimeOfDay where
  hours : Nat
  minutes : Nat
  seconds : Nat
deriving DecidableEq, Repr

-- Every `new Date()` takes the next reading.
structure Clock where
  readings : Nat → TimeOfDay
  taken : Nat

def Clock.now (clock : Clock) : TimeOfDay := clock.readings clock.taken

-- A clock that stands still, for runs on fixed inputs.
def noon : Clock := { readings := fun _ => ⟨12, 0, 0⟩, taken := 0 }

def Clock.advance (clock : Clock) : Clock := { clock with taken := clock.taken + 1 }

inductive AuthType where
  | password
  | key
deriving DecidableEq, Repr

-- ArkTS declares the port of a draft as text; the Lynx side of the bridge sends a number.
inductive PortField where
  | text (value : JsString)
  | number (value : JsNumber)
deriving DecidableEq, Repr

structure ConnectionDraft where
  host : JsString
  port : PortField
  username : JsString
  password : Option JsString := none
  privateKey : Option JsString := none
  publicKey : Option JsString := none
  passphrase : Option JsString := none
  isEditing : Option Bool := none
  editingId : Option JsNumber := none
deriving DecidableEq, Repr

structure ConnectionRecord where
  id : Nat
  name : JsString
  host : JsString
  port : Nat
  username : JsString
  authType : AuthType
  time : JsString
deriving DecidableEq, Repr

structure ImportedKey where
  id : Nat
  name : JsString
  content : JsString
  publicKey : Option JsString
  passphrase : Option JsString
  fingerprint : JsString
deriving DecidableEq, Repr

structure Snippet where
  id : Nat
  title : JsString
  command : JsString
deriving DecidableEq, Repr

structure AppStorage where
  available : Bool
  darkMode : Option Bool := none
  savePassword : Option Bool := none
deriving DecidableEq, Repr

structure SettingsStore where
  darkModeEnabled : Bool := false
  savePasswordEnabled : Bool := false
  keepaliveInterval : JsNumber := .int 60
  keepaliveAttempts : JsNumber := .int 3
  terminalFontFamilyValue : JsString := js "system"
  terminalFontSizeValue : JsNumber := .int 14
deriving DecidableEq, Repr

-- Ghost: one execution of passwords.set, with the records at that moment.
structure SavedPassword where
  id : Nat
  password : JsString
  records : List ConnectionRecord
deriving DecidableEq, Repr

-- The password map is never iterated, so it is the function it looks up.
-- `saved` is ghost state that no operation reads.
structure ConnectionStore where
  seq : Nat := 1
  history : List ConnectionRecord := []
  passwords : Nat → Option JsString := fun _ => none
  saved : List SavedPassword := []

structure SnippetStore where
  seq : Nat := 3
  snippets : List Snippet := [
    { id := 0, title := js "List files", command := js "ls -la" },
    { id := 1, title := js "Check disk", command := js "df -h" },
    { id := 2, title := js "Check memory", command := js "free -m" }]
deriving DecidableEq, Repr

structure KeyStore where
  seq : Nat := 1
  keys : List ImportedKey := []
deriving DecidableEq, Repr

structure Stores where
  clock : Clock
  appStorage : AppStorage
  logs : List JsString := []
  settings : SettingsStore := {}
  connections : ConnectionStore := {}
  snippets : SnippetStore := {}
  keys : KeyStore := {}

def initialStores (clock : Clock) (appStorage : AppStorage) : Stores := { clock, appStorage }

-- Truthiness of an optional string: neither undefined nor empty.
def truthy (text : Option JsString) : Bool := text.any fun value => !value.isEmpty

def boolText (value : Bool) : JsString := if value then js "true" else js "false"

def Logger.log (message : JsString) (s : Stores) : Stores :=
  let ts := s.clock.now
  let timeStr := padStart2 (decimal ts.hours) ++ js ":" ++ padStart2 (decimal ts.minutes) ++ js ":" ++
    padStart2 (decimal ts.seconds)
  { s with clock := s.clock.advance, logs := (js "[" ++ timeStr ++ js "] " ++ message) :: s.logs }

def Logger.info (message : JsString) (s : Stores) : Stores := Logger.log message s

def Logger.list (s : Stores) : List JsString := s.logs

def Logger.clear (s : Stores) : Stores := { s with logs := [] }

@[simp] theorem log_connections (message : JsString) (s : Stores) :
    (Logger.log message s).connections = s.connections := rfl

@[simp] theorem log_settings (message : JsString) (s : Stores) : (Logger.log message s).settings = s.settings := rfl

@[simp] theorem log_keys (message : JsString) (s : Stores) : (Logger.log message s).keys = s.keys := rfl

@[simp] theorem log_snippets (message : JsString) (s : Stores) : (Logger.log message s).snippets = s.snippets := rfl

@[simp] theorem log_appStorage (message : JsString) (s : Stores) :
    (Logger.log message s).appStorage = s.appStorage := rfl

end Kessh
