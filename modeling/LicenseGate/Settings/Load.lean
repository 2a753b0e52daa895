import LicenseGate.Files
import LicenseGate.Settings.Fields
import LicenseGate.Text.Utf8

/-!
Loading settings from text, bytes and files. What is loaded is valid.
-/

namespace LicenseGate.Settings

open Text Yaml

def ofText (text : List Char) : Except Error Settings := do
  let settings ←
    match ofDocument (Document.ofText text) with
    | .ok settings => .ok settings
    | .error refusal => .error (.badConfig refusal.message)
  settings.validate
  .ok settings

def readFailed (reason : String) : Error := .internal ("read config failed: " ++ reason)

def ofBytes (bytes : List UInt8) : Except Error Settings :=
  match Utf8.decode bytes with
  | none => .error (readFailed "stream did not contain valid UTF-8")
  | some text => ofText text

def ofFile (files : Files) (path : String) : Except Error Settings :=
  match files path with
  | .error fault => .error (readFailed fault.message)
  | .ok bytes => ofBytes bytes

end LicenseGate.Settings
