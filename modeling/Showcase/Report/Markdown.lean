import Showcase.Collection.Results

namespace Showcase.Report

open Text

/-! # Results as Markdown

Each component has a section with its code and the code of its entries in fenced blocks.
-/

/-- The heading when the directory of all components has no title. -/
def defaultTitle : String := "Components"

/-- The line that opens and closes a block. -/
def fence : String := "\x60\x60\x60"

def fenceLanguage : Language → String
  | .js => "js"
  | .ts | .tsx => "tsx"

def codeBlock (language code : String) : String :=
  fence ++ language ++ "\n" ++ trimmedBack code ++ "\n" ++ fence ++ "\n\n"

/-- A paragraph, if there is one. -/
def paragraph : Option String → String
  | some s => trimmed s ++ "\n\n"
  | none => ""

def entryMarkdown (language : String) (entry : PropsEntry) : String :=
  (match entry.options.alt with
    | some alt => "**" ++ trimmed alt ++ "**\n\n"
    | none => "") ++
  paragraph entry.options.readme ++ codeBlock language entry.displayCode

def componentMarkdown (component : FolderOptions) : String :=
  let language := fenceLanguage component.language
  "## " ++ component.title ++ "\n\n" ++ paragraph component.metadata.description ++
    paragraph component.metadata.readme ++ codeBlock language component.component.code ++
    String.join (component.props.map (entryMarkdown language))

def markdown (results : Results) : String :=
  "# " ++ results.title?.getD defaultTitle ++ "\n\n" ++
    paragraph (results.global.bind (·.description)) ++
    String.join (results.components.map componentMarkdown)

end Showcase.Report
