import PluginHost.Runner.Basic

/-!
# Reports

What a run shows to the outside: its exit code, its standard output and its standard error. Standard
error holds the lines of the events that pass their filters, what else was written there, and what
made the run fail.
-/

namespace PluginHost

open PluginHost.Text

structure Report where
  exitCode : Nat
  stdout : Bytes
  stderr : String
  deriving DecidableEq, Repr

namespace Failure

/-- What failed, and then its causes, each the cause of the one before it. -/
def chain : Failure → List String
  | request error => ["Failed to build request", error.message, error.cause]
  | plugin path error =>
      [s!"Failed to load trigger from {Utf8.lossy path}", error.message, error.cause]
  | status code => [s!"trigger returned status {code.toInt}"]

/-- A text whose first line begins with `head` and whose other lines are indented by `width`. -/
def indent (head : String) (width : Nat) (text : String) : String :=
  head ++ String.ofList (text.toList.flatMap fun char =>
    if char = '\n' then '\n' :: List.replicate width ' ' else [char])

/-- The causes, numbered from the given number on. -/
def numbered (number : Nat) : List String → List String
  | [] => []
  | cause :: rest => indent s!"    {number}: " 7 cause :: numbered (number + 1) rest

/-- The lines about causes; a single cause bears no number. -/
def causeLines : List String → List String
  | [] => []
  | [cause] => ["", "Caused by:", indent "    " 4 cause]
  | causes => "" :: "Caused by:" :: numbered 0 causes

def text (failure : Failure) : String :=
  let lines := match failure.chain with
    | [] => []
    | head :: causes => s!"Error: {head}" :: causeLines causes
  String.join (lines.map (· ++ "\n"))

end Failure

namespace Ending

def exitCode : Ending → Nat
  | panicked => 101
  | help _ | completed => 0
  | failed _ => 1
  | refused _ => 2
  | left code => code

/-- What an ending adds to standard error. Where a panic came from is not told. -/
def errorText : Ending → String
  | refused fault => fault.printed
  | failed failure => failure.text
  | _ => ""

end Ending

/-- The filters of the two sides that report. -/
structure Filters where
  runner : Log.Filter
  plugin : Log.Filter

namespace Filters

/-- Both sides read one setting, and differ in what they show without it. -/
def ofSetting (setting : Option Bytes) : Filters :=
  ⟨.ofSetting .info setting, .ofSetting .warn setting⟩

def passes (filters : Filters) (event : Log.Event) : Bool :=
  match event.side with
  | .runner => filters.runner.passes event
  | .plugin => filters.plugin.passes event

/-- What is seen of a notice: the line of an event if it passes, and all other text. -/
def noticeText (filters : Filters) : Notice → String
  | .event event => if filters.passes event then event.line else ""
  | .text bytes => Utf8.lossy bytes

def noticesText (filters : Filters) (notices : List Notice) : String :=
  String.join (notices.map filters.noticeText)

end Filters

/-- What is shown of a course. -/
def Course.report (course : Course) (filters : Filters) : Report where
  exitCode := course.ending.exitCode
  stdout := course.printed
  stderr :=
    filters.noticesText course.notices ++ course.ending.errorText ++
      filters.noticesText course.farewell

def Situation.report (situation : Situation) : Report :=
  situation.course.report (.ofSetting situation.logSetting)

end PluginHost
