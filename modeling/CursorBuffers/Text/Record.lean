namespace CursorBuffers.Text

/-- The text of a record: its name, then its fields in order between braces. -/
def record (name : String) (fields : List (String × String)) : String :=
  let texts := fields.map fun field => field.1 ++ ": " ++ field.2
  name ++ " \x7b " ++ ", ".intercalate texts ++ " \x7d"

end CursorBuffers.Text
