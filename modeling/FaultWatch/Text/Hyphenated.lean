/-! Joined words told apart by capitals, written with hyphens instead: every capital but the first
gets a hyphen before it, and all become small. -/
namespace FaultWatch.Text

def hyphenateRest : List Char → List Char
  | [] => []
  | c :: rest =>
    if c.isUpper then '-' :: c.toLower :: hyphenateRest rest else c :: hyphenateRest rest

def hyphenated : List Char → List Char
  | [] => []
  | c :: rest => c.toLower :: hyphenateRest rest

end FaultWatch.Text
