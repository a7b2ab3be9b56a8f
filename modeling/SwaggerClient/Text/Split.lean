namespace SwaggerClient.Text

/-- The pieces between the occurrences of a separator; there is one more piece than separators. -/
def splitChars (separator : Char) : List Char → List (List Char)
  | [] => [[]]
  | c :: rest =>
    if c = separator then [] :: splitChars separator rest
    else
      match splitChars separator rest with
      | [] => [[c]]
      | piece :: pieces => (c :: piece) :: pieces

def split (separator : Char) (text : String) : List String :=
  (splitChars separator text.toList).map String.ofList

def join (separator : String) : List String → String
  | [] => ""
  | piece :: pieces => pieces.foldl (fun text next => text ++ separator ++ next) piece

def after? (start : String) (text : String) : Option String :=
  if start.toList.isPrefixOf text.toList then some (String.ofList (text.toList.drop start.toList.length))
  else none

def beginsWith (c : Char) (text : String) : Bool :=
  text.toList.head? == some c

end SwaggerClient.Text
