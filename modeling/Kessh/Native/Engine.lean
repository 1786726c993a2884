import Kessh.Native.Operations

set_option autoImplicit false

-- The wrapper that the pages call the native module through.
namespace Kessh.SSHEngine

open Ecma (JsString js utf8 replaceUnit)
open Native (Routine)

def shellQuoteArg (value : JsString) : Except JsString JsString :=
  if value.any fun code => code == 0 || code == 10 || code == 13 then .error (js "路径包含非法字符")
  else .ok (js "'" ++ (replaceUnit 0x27 (js "'\\''") value ++ js "'"))

-- An error that the native module throws is logged, and the text is empty.
def executeCommand (sessionId : Int) (command : JsString) : Routine JsString := do
  match ← Native.executeCommand sessionId (utf8 command) with
  | .string text => return text
  | _ => return []

-- None of the native module where the path cannot be quoted: the error is thrown.
def listFiles (sessionId : Int) (remotePath : JsString) : Routine (Except JsString JsString) :=
  match shellQuoteArg remotePath with
  | .error message => return .error message
  | .ok quoted => do
      let text ← executeCommand sessionId (js "ls -la -- " ++ (quoted ++ js " 2>&1"))
      return .ok text

def errorMessage (message : Utf8.Bytes) : JsString := Utf16.encode (Utf8.decode message)

def downloadFile (sessionId : Int) (remotePath : JsString) : Routine (Except JsString JsString) := do
  match ← Native.downloadFile sessionId (utf8 remotePath) with
  | .string text => return .ok text
  | .thrown message => return .error (js "Download failed: " ++ errorMessage message)
  | _ => return .ok []

def uploadFile (sessionId : Int) (remotePath content : JsString) : Routine (Except JsString Int) := do
  match ← Native.uploadFile sessionId (utf8 remotePath) (utf8 content) with
  | .int32 written => return .ok written
  | .thrown message => return .error (js "Upload failed: " ++ errorMessage message)
  | _ => return .ok content.length

end Kessh.SSHEngine
