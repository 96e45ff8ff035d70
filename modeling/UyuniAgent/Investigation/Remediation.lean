import UyuniAgent.Support.Regex

/-!
# The filter for remediation steps

`_sanitize_remediation` drops steps that match a pattern of destructive
commands, and adds advice where steps change the trust in an SSH host.
-/

namespace UyuniAgent.Investigation

open Regex

/-! ## Patterns -/

/-- A word, or one of several, with a boundary on both sides. -/
def wholeWord (options : List String) : Regex :=
  sequence [boundary, oneOf (options.map lit), boundary]

/-- `\bcommand\s+(?:argument|...)\b`. -/
def commandWith (command : String) (arguments : List String) : Regex :=
  sequence [boundary, lit command, spaces, oneOf (arguments.map lit), boundary]

/-- `\b(?:name|...)\s*=\s*(?:value|...)\b`. -/
def setting (names values : List String) : Regex :=
  sequence [boundary, oneOf (names.map lit), star space, lit "=", star space,
    oneOf (values.map lit), boundary]

/-- `_HIGH_RISK_REMEDIATION`. -/
def highRiskRemediation : Regex :=
  oneOf [commandWith "rm" ["-rf"], commandWith "kill" ["-9"],
    sequence [boundary, lit "mkfs", alt (lit ".") space],
    sequence [boundary, lit "dd", spaces, lit "if="],
    commandWith "drop" ["database", "table"],
    commandWith "truncate" ["table"],
    wholeWord ["reboot", "shutdown"],
    commandWith "chmod" ["666", "777"],
    setting ["stricthostkeychecking"] ["no"],
    setting ["userknownhostsfile"] ["/dev/null"],
    sequence [wholeWord ["curl"], star (chars (· ≠ '\n')),
      oneOf [sequence [space, lit "-k", alt space textEnd],
        sequence [space, lit "--insecure", boundary]]],
    setting ["verify_tls", "ssl_verify", "verify"] ["false", "0"],
    sequence [wholeWord ["delete", "remove", "clear"],
      star (chars fun c => c ≠ '.' && c ≠ '\n'), wholeWord ["known_hosts"]]]

def trustedHost : Regex :=
  oneOf [lit "known_hosts",
    sequence [lit "host", chars fun c => c = '-' || c = ' ', lit "key"]]

def changing : Regex := oneOf [lit "replace", lit "update", lit "change"]

def sshTrustChange : Regex :=
  alt (sequence [trustedHost, anything, changing])
    (sequence [changing, anything, trustedHost])

/-- `.`. -/
def anyChar : Regex := chars (· ≠ '\n')

def trustedChannel : Regex :=
  oneOf [lit "trusted",
    sequence [lit "out", anyChar, lit "of", anyChar, lit "band"],
    lit "console"]

def fingerprintVerification : Regex :=
  alt
    (sequence [lit "verify", anything, lit "fingerprint", anything,
      trustedChannel])
    (sequence [lit "fingerprint", anything, trustedChannel, anything,
      alt (lit "verify") (lit "confirm")])

/-! ## The filter -/

variable (unicode : UnicodeData)

/-- The steps that are kept, stripped. -/
def safeSteps (steps : List String) : List String :=
  (steps.filter fun step =>
    PyText.strip step ≠ "" && !highRiskRemediation.search unicode step).map
      PyText.strip

def verifyFingerprintFirst : String :=
  "Verify the presented SSH fingerprint through a trusted out-of-band " ++
    "channel before changing pinned trust."

def sanitizeRemediation (steps : List String) (inconclusive : Bool) :
    List String :=
  let safe := safeSteps unicode steps
  let combined := " ".intercalate safe
  let warned :=
    if sshTrustChange.search unicode combined &&
        !fingerprintVerification.search unicode combined then
      verifyFingerprintFirst :: safe
    else safe
  if inconclusive then
    ["Restore or refresh the missing evidence and repeat the investigation.",
      "Have an operator validate the affected component before changing " ++
        "service state or data."]
  else
    let escalated :=
      if warned.length ≠
          (steps.filter fun step => PyText.strip step ≠ "").length then
        warned ++ ["Escalate destructive recovery actions for explicit " ++
          "operator approval."]
      else warned
    if escalated.isEmpty then
      ["Have an operator validate a safe remediation from the cited evidence."]
    else escalated

end UyuniAgent.Investigation
