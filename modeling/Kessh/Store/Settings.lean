import Kessh.Store.Model

set_option autoImplicit false

namespace Kessh

open Ecma

namespace SettingsStore

-- AppStorage.SetOrCreate and Get throw where there is no AppStorage; the catch keeps the values.
def ensureInitialized (s : Stores) : Stores :=
  if s.appStorage.available then
    let appStorage := { s.appStorage with darkMode := some s.settings.darkModeEnabled,
                                          savePassword := some s.settings.savePasswordEnabled }
    { s with
      appStorage
      settings := { s.settings with
        darkModeEnabled := appStorage.darkMode.getD s.settings.darkModeEnabled
        savePasswordEnabled := appStorage.savePassword.getD s.settings.savePasswordEnabled } }
  else s

def setDarkMode (v : Bool) (s : Stores) : Stores :=
  let s := { s with settings := { s.settings with darkModeEnabled := v } }
  let s := if s.appStorage.available then { s with appStorage := { s.appStorage with darkMode := some v } } else s
  Logger.log (js "Setting dark_mode=" ++ boolText v) s

def setSavePassword (v : Bool) (s : Stores) : Stores :=
  let s := { s with settings := { s.settings with savePasswordEnabled := v } }
  let s := if s.appStorage.available then { s with appStorage := { s.appStorage with savePassword := some v } } else s
  Logger.log (js "Setting save_password=" ++ boolText v) s

def setSessionKeepaliveInterval (v : JsNumber) (s : Stores) : Stores :=
  Logger.info (js "Keepalive interval set to " ++ v.toJsString ++ js "s")
    { s with settings := { s.settings with keepaliveInterval := v } }

def setSessionKeepaliveAttempts (v : JsNumber) (s : Stores) : Stores :=
  Logger.info (js "Keepalive attempts set to " ++ v.toJsString)
    { s with settings := { s.settings with keepaliveAttempts := v } }

def setTerminalFontFamily (family : JsString) (s : Stores) : Stores :=
  Logger.info (js "Terminal font family=" ++ family)
    { s with settings := { s.settings with terminalFontFamilyValue := family } }

def setTerminalFontSize (size : JsNumber) (s : Stores) : Stores :=
  Logger.info (js "Terminal font size=" ++ size.toJsString)
    { s with settings := { s.settings with terminalFontSizeValue := size } }

@[simp] theorem ensureInitialized_settings (s : Stores) : (ensureInitialized s).settings = s.settings := by
  unfold ensureInitialized
  split <;> rfl

@[simp] theorem ensureInitialized_connections (s : Stores) : (ensureInitialized s).connections = s.connections := by
  unfold ensureInitialized
  split <;> rfl

@[simp] theorem setDarkMode_connections (v : Bool) (s : Stores) : (setDarkMode v s).connections = s.connections := by
  unfold setDarkMode
  dsimp only
  split <;> rfl

@[simp] theorem setSavePassword_connections (v : Bool) (s : Stores) :
    (setSavePassword v s).connections = s.connections := by
  unfold setSavePassword
  dsimp only
  split <;> rfl

@[simp] theorem setSessionKeepaliveInterval_connections (v : JsNumber) (s : Stores) :
    (setSessionKeepaliveInterval v s).connections = s.connections := rfl

@[simp] theorem setSessionKeepaliveAttempts_connections (v : JsNumber) (s : Stores) :
    (setSessionKeepaliveAttempts v s).connections = s.connections := rfl

@[simp] theorem setTerminalFontFamily_connections (family : JsString) (s : Stores) :
    (setTerminalFontFamily family s).connections = s.connections := rfl

@[simp] theorem setTerminalFontSize_connections (size : JsNumber) (s : Stores) :
    (setTerminalFontSize size s).connections = s.connections := rfl

end SettingsStore

end Kessh
