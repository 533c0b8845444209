/-! Whether one text stands somewhere in another. -/

namespace DocumentStore.Text

/-- Whether `s` stands somewhere in a text. -/
def occursIn (s : List Char) : List Char → Bool
  | [] => s.isEmpty
  | c :: cs => s.isPrefixOf (c :: cs) || occursIn s cs

end DocumentStore.Text
