/-
  LintBroker.Engine.Bundled

  The configuration files that come with the library: one for script linters and one for
  page linters.
-/
import LintBroker.Files.Tree
import LintBroker.Text.Utf8

namespace LintBroker

open LintBroker.Files LintBroker.Text

/-- The name of the configuration for scripts. -/
def scriptRulesName : String := "eslintrc.json"

/-- The name of the configuration for pages. -/
def pageRulesName : String := "htmlhintrc.json"

/-- The lines of the configuration for scripts. -/
def scriptRules : List String := [
    "\x7b",
    "  \"root\": true,",
    "  \"env\": \x7b",
    "    \"browser\": true,",
    "    \"node\": true,",
    "    \"es6\": true",
    "  \x7d,",
    "  \"extends\": [\"eslint:recommended\"],",
    "  \"parserOptions\": \x7b",
    "    \"ecmaVersion\": 2020,",
    "    \"sourceType\": \"module\"",
    "  \x7d",
    "\x7d" ]

/-- The lines of the configuration for pages. -/
def pageRules : List String := [
    "\x7b",
    "  \"tagname-lowercase\": true,",
    "  \"attr-lowercase\": true,",
    "  \"attr-value-double-quotes\": true,",
    "  \"doctype-first\": true,",
    "  \"tag-pair\": true,",
    "  \"spec-char-escape\": true,",
    "  \"id-unique\": true,",
    "  \"src-not-empty\": true,",
    "  \"attr-no-duplication\": true,",
    "  \"title-require\": true",
    "\x7d" ]

/-- The bytes of a file with these lines. -/
def linesBytes (lines : List String) : List UInt8 :=
  Utf8.encode (String.join (lines.map fun line => line ++ "\n"))

/-- A tree with the bundled files in a directory. -/
def withBundled (tree : Tree) (directory : Place) : Tree :=
  let tree := tree.withFile (directory ++ [scriptRulesName]) (linesBytes scriptRules) false
  tree.withFile (directory ++ [pageRulesName]) (linesBytes pageRules) false

end LintBroker
