import DpostV2.Lib.Python

/-!
# The device template

What the processors of the device plugins share: their settings, their errors, and how
they read the source path of a payload and its extension.
-/

namespace DpostV2.Devices

structure DevicePluginSettings where
  pluginId : String
  sourceExtensions : List String
  extra : Dict := Dict.empty

def deviceError (cls message : String) : Exn := { mro := [cls, "ValueError", "Exception"], message }

/-- The text behind the last dot. -/
def behindLastDot (s : String) : String :=
  String.ofList (s.toList.reverse.takeWhile (· ≠ '.')).reverse

/-- `_normalize_extension`. -/
def normalizeExtension [Interpreter] (sourcePath : String) : String :=
  if '.' ∈ sourcePath.toList then "." ++ Interpreter.lower (behindLastDot sourcePath) else ""

def unsupportedExtension [Interpreter] (settings : DevicePluginSettings)
    (extension : String) : Exn :=
  deviceError "DeviceProcessorFormatError" ("unsupported extension " ++
    Interpreter.reprOf extension ++ " for " ++ settings.pluginId)

end DpostV2.Devices
