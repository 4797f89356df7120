import Watchgate.Approval.Request
import Watchgate.Text.CaseMap

/-!
# Notices about approval requests

What is sent to the notification service when a request is made or decided: a coloured card that
names the content, who asked for it, and why it waits or what became of it.
-/

namespace Watchgate.Notice

def colour : Status → String
  | .pending => "E3A008"
  | .approved => "377E22"
  | .rejected => "D65845"
  | .expired => "7F7F7F"
  | .other _ => "7F7F7F"

/-- The causes of requests and how they are called. -/
def triggerLabels : Entries :=
  [("quota_exceeded", .text "Quota exceeded"),
    ("router_rule", .text "Router rule"),
    ("manual_flag", .text "User requires approval"),
    ("content_criteria", .text "Content criteria")]

/-- How the cause of a request is called. -/
def triggerLabel (trigger : Value) : Except Failure Value :=
  match trigger with
  | .text s => .ok ((Entries.get? triggerLabels s).getD trigger)
  | v => if v.hashable then .ok v else .error (.kind (.unhashable v.kind))

def field (title : String) (text : Value) (isInline : Bool) : Value :=
  .map [("title", .text title), ("text", text), ("inline", .bool isInline)]

/-- A field that is left out where there is no text. -/
def fieldIfAny (title : String) (text : Value) : List Value :=
  if text.truthy then [field title text false] else []

def fields (r : Request) (trigger : Value) : List Value :=
  [field "Requested By" (r.userName.orElse (.text (Number.integerText r.userId))) false,
    field "Status" (.text (Text.capitalize r.status.name)) true,
    field "Trigger" trigger true]
  ++ (r.verdict.proposed.map fun p =>
      field "Proposed Instance" (.text (Number.integerText p.instanceId)) true).toList
  ++ fieldIfAny "Reason" r.reason
  ++ fieldIfAny "Notes" r.notes

/-- The sign in front of the title. -/
def icon (contentType : Value) : String :=
  if contentType.isOneOf ["movie"] then "🎬" else "📺"

def payload (r : Request) (event : String) (channel : Value) : Except Failure Value := do
  let trigger ← triggerLabel r.triggeredBy
  return .map [
    ("notification", .map [
      ("update", .bool false),
      ("name", .text "Pulsarr"),
      ("event", .text (event ++ " - " ++ Number.integerText r.id))]),
    ("discord", .map [
      ("color", .text (colour r.status)),
      ("ping", .map [("pingUser", .int 0), ("pingRole", .int 0)]),
      ("images", .map [("thumbnail", .text ""), ("image", .text "")]),
      ("text", .map [
        ("title", .text (icon r.contentType ++ " **" ++ r.title.display ++ "**")),
        ("icon", .text ""),
        ("content", .text ""),
        ("description", .text ""),
        ("fields", .list (fields r trigger)),
        ("footer", .text "Pulsarr Approvals")]),
      ("ids", .map [("channel", channel)])])]

end Watchgate.Notice
