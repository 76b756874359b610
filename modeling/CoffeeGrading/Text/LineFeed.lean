/-!
Line ends of text files.  A line may end with a carriage return, a line feed, or both.
-/

namespace CoffeeGrading.Text

def lineFeeds : List Char → List Char
  | [] => []
  | '\r' :: '\n' :: rest => '\n' :: lineFeeds rest
  | '\r' :: rest => '\n' :: lineFeeds rest
  | character :: rest => character :: lineFeeds rest

def withLineFeeds (text : String) : String :=
  String.ofList (lineFeeds text.toList)

end CoffeeGrading.Text
