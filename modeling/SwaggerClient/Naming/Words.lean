import SwaggerClient.Unicode.Alphanumeric
import SwaggerClient.Unicode.CaseMapping
import SwaggerClient.Text.Split

namespace SwaggerClient.Naming

/-- A word ends between two letters or numbers: where one is a number and the other is not, between a
lower-case and an upper-case letter, and before the last capital of several when a lower-case letter
follows it. -/
def isBoundary (previous c : Char) (next : Option Char) : Bool :=
  (Unicode.isNumeric previous != Unicode.isNumeric c) ||
  (Unicode.isLowercase previous && Unicode.isUppercase c) ||
  (Unicode.isUppercase previous && Unicode.isUppercase c && next.any Unicode.isLowercase)

def finished (gathered : List Char) : List (List Char) :=
  if gathered.isEmpty then [] else [gathered.reverse]

/-- The words of a text; `gathered` holds the letters of the word that has begun, last first. -/
def wordsFrom (gathered : List Char) : List Char → List (List Char)
  | [] => finished gathered
  | c :: rest =>
    if !Unicode.isAlphanumeric c then finished gathered ++ wordsFrom [] rest
    else
      match gathered with
      | [] => wordsFrom [c] rest
      | previous :: others =>
        if isBoundary previous c rest.head? then
          (previous :: others).reverse :: wordsFrom [c] rest
        else wordsFrom (c :: previous :: others) rest

/-- The words of a text. Characters that are neither letters nor numbers separate words. -/
def words (text : List Char) : List (List Char) :=
  wordsFrom [] text

/-- The words of a text. -/
def splitWords (text : String) : List String :=
  (words text.toList).map String.ofList

def capitalizeChars : List Char → List Char
  | [] => []
  | c :: rest => Unicode.upperChar c ++ rest

def capitalize (text : String) : String :=
  String.ofList (capitalizeChars text.toList)

def camelChars (text : List Char) : List Char :=
  match words text with
  | [] => []
  | word :: rest => Unicode.lower word ++ rest.flatMap fun w => capitalizeChars (Unicode.lower w)

/-- The words written as `camelCase`. -/
def camelCase (text : String) : String :=
  String.ofList (camelChars text.toList)

/-- The words written as `snake_case`. -/
def snakeCase (text : String) : String :=
  Text.join "_" ((words text.toList).map fun word => String.ofList (Unicode.lower word))

/-- The words written as `UPPER_SNAKE_CASE`. -/
def upperSnakeCase (text : String) : String :=
  Text.join "_" ((words text.toList).map fun word => String.ofList (Unicode.upper word))

end SwaggerClient.Naming
