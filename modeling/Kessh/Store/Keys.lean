import Kessh.Store.Model

set_option autoImplicit false

namespace Kessh

open Ecma

namespace SnippetStore

def list (s : Stores) : List Snippet := s.snippets.snippets

def add (title command : JsString) (s : Stores) : Stores :=
  { s with snippets := { seq := s.snippets.seq + 1,
                         snippets := s.snippets.snippets ++ [{ id := s.snippets.seq, title, command }] } }

def remove (id : JsNumber) (s : Stores) : Stores :=
  { s with snippets := { s.snippets with
      snippets := s.snippets.snippets.filter fun snippet => JsNumber.int snippet.id != id } }

end SnippetStore

-- The digest of the platform, or the fallback hash where it fails: any function of the text.
variable (digest : JsString → JsString)

def SecurityUtils.sha256Hex (data : JsString) : JsString := if data.isEmpty then [] else digest data

namespace KeyStore

def importKey (name content : JsString) (publicKey passphrase : Option JsString) (s : Stores) :
    ImportedKey × Stores :=
  let fingerprint := SecurityUtils.sha256Hex digest content
  let k : ImportedKey := { id := s.keys.seq, name, content, publicKey, passphrase, fingerprint }
  let s := { s with keys := { seq := s.keys.seq + 1, keys := k :: s.keys.keys } }
  let suffix := if fingerprint.isEmpty then [] else js " fingerprint=" ++ fingerprint.take 12 ++ js "…"
  (k, Logger.log (js "Key import " ++ name ++ suffix) s)

def list (s : Stores) : List ImportedKey := s.keys.keys

def remove (id : JsNumber) (s : Stores) : Stores :=
  { s with keys := { s.keys with keys := s.keys.keys.filter fun k => JsNumber.int k.id != id } }

end KeyStore

end Kessh
