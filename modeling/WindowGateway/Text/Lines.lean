/-! Lines of text: each ends at a line feed, and a carriage return directly before the line feed
belongs to the end of the line. What follows the last line feed is a line if it is not empty. -/

namespace WindowGateway.Text

/-- A line, given backwards, without the carriage return at its end. -/
def withoutReturn : List Char → List Char
  | '\r' :: cs => cs
  | cs => cs

/-- The lines of `current`, given backwards, followed by the characters. -/
def linesFrom (current : List Char) : List Char → List String
  | [] => if current.isEmpty then [] else [String.ofList current.reverse]
  | '\n' :: cs => String.ofList (withoutReturn current).reverse :: linesFrom [] cs
  | c :: cs => linesFrom (c :: current) cs

/-- The lines of a text, without their ends. -/
def lines (s : String) : List String := linesFrom [] s.toList

example : lines "a\r\n\r\nb\r" = ["a", "", "b\r"] := by decide

end WindowGateway.Text
