import PortableC.Settings
import PortableC.Toml.Document

namespace PortableC

/-! Settings written as a document.  Each key is checked where it stands, so that
the first one that does not fit is the one reported. -/

namespace Toml.Value

def asString : Value → Except Misfit String
  | .string text => .ok text
  | value => .error (.wrongKind value.shape .string)

def asBoolean : Value → Except Misfit Bool
  | .boolean value => .ok value
  | value => .error (.wrongKind value.shape .boolean)

def asStrings : Value → Except Misfit (List String)
  | .array items => items.mapM asString
  | .tables elements => elements.mapM fun _ => .error (.wrongKind .mapping .string)
  | value => .error (.wrongKind value.shape .sequence)

end Toml.Value

namespace Settings

def setKey (settings : Settings) (key : String) (value : Toml.Value) :
    Except Misfit Settings :=
  match key with
  | "toolchain" => do
      let name ← value.asString
      .ok { settings with toolchain := some name }
  | "dialect" => do
      let name ← value.asString
      .ok { settings with dialect := some name }
  | "allocator" => do
      let name ← value.asString
      .ok { settings with allocator := some name }
  | "opaque-fn-ref" => do
      let enabled ← value.asBoolean
      .ok { settings with handle := some enabled }
  | "header-guard" => do
      let name ← value.asString
      .ok { settings with guard := some name }
  | "banner" => do
      let enabled ← value.asBoolean
      .ok { settings with banner := some enabled }
  | "fn-refs" => do
      let signatures ← value.asStrings
      .ok { settings with signatures }
  | _ => .error (.unknownKey key)

def ofEntries (entries : Toml.Entries) : Except Misfit Settings :=
  entries.foldlM (fun settings (key, value) => settings.setKey key value) {}

/-- Settings from the text of a document.  A text that is no document at all is
refused before any key is looked at. -/
def ofText (text : String) : Except Error Settings :=
  match Toml.parse? text with
  | none => .error .settingsNotToml
  | some entries =>
      match ofEntries entries with
      | .ok settings => .ok settings
      | .error misfit => .error (.settingsMisfit misfit)

def load (read : String → Except FileFault String) (path : String) : Except Error Settings :=
  match read path with
  | .ok text => ofText text
  | .error fault => .error (.unreadable path fault)

end Settings

end PortableC
