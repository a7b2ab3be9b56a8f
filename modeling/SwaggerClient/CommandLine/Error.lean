import SwaggerClient.Document.Text
import SwaggerClient.Error
import SwaggerClient.Files.Access
import SwaggerClient.Language.Builtin

namespace SwaggerClient

inductive RunError where
  | unreadable (path : String) (cause : FileError)
  | badConfig (path : String)
  | unknownLanguage (name : String)
  /-- Neither the flag nor a config file is given. -/
  | missingFlag (flag : String)
  | badDocument (path : String) (cause : DocumentError)
  | synthesis (cause : SynthesisError)
  | unwritable (path : String) (cause : FileError)

def RunError.message : RunError → String
  | .unreadable path cause => "Failed to read " ++ path ++ ": " ++ cause.message
  | .badConfig path => "Invalid config file " ++ path
  | .unknownLanguage name =>
    "Unknown language '" ++ name ++ "', expected one of: " ++
      Text.join ", " (Language.all.map Language.name)
  | .missingFlag flag => "Missing required argument --" ++ flag ++ " (or pass a config file)"
  | .badDocument path cause => "Failed to load spec " ++ path ++ ": " ++ cause.message
  | .synthesis cause => cause.message
  | .unwritable path cause => "Failed to write " ++ path ++ ": " ++ cause.message

end SwaggerClient
