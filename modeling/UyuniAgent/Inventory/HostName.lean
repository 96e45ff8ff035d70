import UyuniAgent.Support.Url

/-!
# Normalized host names

`_normalized_host` takes a minion ID, a system name, an `instance` label, a
scrape address or a scrape URL to a host name in lower case, without port,
brackets and trailing dots.
-/

namespace UyuniAgent.Inventory

/-- `value or fallback`. -/
def either (value fallback : PyValue) : PyValue :=
  if value.truthy then value else fallback

/-- The text in front of a port number, or the whole text. -/
def withoutPort (unicode : UnicodeText) (rendered : String) : String :=
  let port := rendered.toList.rtakeWhile (· ≠ ':')
  let host := (rendered.toList.rdropWhile (· ≠ ':')).dropLast
  if host ≠ [] ∧ port ≠ [] ∧ port.all unicode.isDigit then String.ofList host
  else rendered

def normalizedHost (py : Interpreter) (unicode : UnicodeText)
    (value : PyValue) : Except PyException String :=
  let rendered := PyText.strip ((either value (.str "")).toStr py)
  if rendered = "" then .ok ""
  else if PyText.contains rendered "://" then do
    let host ← Url.hostname unicode rendered
    return PyText.rstripChar '.' (unicode.lower (host.getD ""))
  else if PyText.startsWith rendered "[" && PyText.contains rendered "]" then
    .ok (PyText.rstripChar '.' (unicode.lower
      (String.ofList (rendered.toList.tail.takeWhile (· ≠ ']')))))
  else
    .ok (PyText.rstripChar '.'
      (unicode.lower (withoutPort unicode rendered)))

def shortHost (value : String) : String :=
  String.ofList (value.toList.takeWhile (· ≠ '.'))

end UyuniAgent.Inventory
