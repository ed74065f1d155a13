/-
# DocSite.Markdown.Highlight -- code set apart by its language

The first word after a code fence names the language of the code. A highlighter turns the code of
such blocks into HTML; all other events pass unchanged.
-/
import DocSite.Markdown.Html

set_option autoImplicit false

namespace DocSite.Markdown

open Text

/-- The languages known, each with the names it goes by. -/
def languages : List (String × List String) :=
  [("typescript", ["ts", "typescript"]), ("javascript", ["js", "javascript", "mjs", "cjs"]),
    ("tsx", ["tsx"]), ("jsx", ["jsx"]), ("scss", ["scss"]), ("sass", ["sass"]), ("css", ["css"]),
    ("html", ["html", "htm"]), ("json", ["json"]), ("yaml", ["yaml", "yml"]), ("toml", ["toml"]),
    ("rust", ["rust", "rs"]), ("bash", ["bash", "sh", "shell", "zsh"]),
    ("markdown", ["md", "markdown"])]

/-- The one name of a language that goes by several; an unknown language is plain text. -/
def canonicalLanguage (name : Text) : Text :=
  let folded := toLower name
  match languages.find? fun (_, aliases) => aliases.any fun known => known.toList == folded with
  | some (language, _) => language.toList
  | none => "plaintext".toList

/-- The language that the text after a code fence names. Braces around its first word do not
count. -/
def fenceLanguage? (info : Text) : Option Text :=
  let word := (trimStart info).takeWhile fun c => !isBlank c
  let name := dropEndWhile (· == '\x7d') (word.dropWhile (· == '\x7b'))
  if name.isEmpty then none else some (canonicalLanguage name)

/-- Turns code of a language into HTML. -/
abbrev Highlighter := (code language : Text) → Text

/-- The HTML of a highlighted block. -/
def highlighted (highlighter : Highlighter) (code language : Text) : Text :=
  "<pre><code class=\"language-".toList ++ language ++ ['"', '>'] ++ highlighter code language ++
    "</code></pre>\n".toList

/-- Passes events through a highlighter. `open?` is the language of the block that is open, with
the code read so far. -/
def highlightFrom (highlighter : Highlighter) :
    (open? : Option (Text × Text)) → List Event → List Event
  | _, [] => []
  | none, e :: rest =>
    match e with
    | .start (.code (some info)) =>
      match fenceLanguage? info with
      | some language => highlightFrom highlighter (some (language, [])) rest
      | none => e :: highlightFrom highlighter none rest
    | _ => e :: highlightFrom highlighter none rest
  | some (language, code), e :: rest =>
    match e with
    | .start (.code (some info)) =>
      match fenceLanguage? info with
      | some language => highlightFrom highlighter (some (language, [])) rest
      | none => e :: highlightFrom highlighter (some (language, code)) rest
    | .text value => highlightFrom highlighter (some (language, code ++ value)) rest
    | .stop (.code _) =>
      .html (highlighted highlighter code language) :: highlightFrom highlighter none rest
    | _ => e :: highlightFrom highlighter (some (language, code)) rest

/-- Events with the code blocks that name a language replaced by what a highlighter makes of
them. -/
def highlight (highlighter : Highlighter) (events : List Event) : List Event :=
  highlightFrom highlighter none events

/-- The HTML of a Markdown text, its code perhaps highlighted. -/
def render (highlighter? : Option Highlighter) (source : Text) : Text :=
  let events := Event.ofSource source
  match highlighter? with
  | some highlighter => Html.ofEvents (highlight highlighter events)
  | none => Html.ofEvents events

end DocSite.Markdown
