import SwaggerClient.Text.Split

namespace SwaggerClient.Url

/-- The segments of a fragment that are not empty. -/
def segments (fragment : String) : List String :=
  (Text.split '/' fragment).filter (fun segment => !segment.isEmpty)

/-- The segments of all fragments with single slashes between them, and a slash in front if the first
fragment has one. -/
def join (fragments : List String) : String :=
  let joined := Text.join "/" (fragments.flatMap segments)
  match fragments with
  | first :: _ => if Text.beginsWith '/' first then "/" ++ joined else joined
  | [] => joined

end SwaggerClient.Url
