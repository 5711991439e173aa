import LineShell.Shell.Builtin

/-!
# Further handlers

Handlers that come with the library besides the built-in commands: one that greets, and a few that
are of use where a shell is embedded or examined.
-/

namespace LineShell.Handler

/-- Greets the one whose name is given, or the world. -/
def greet : Handler where
  origin := .function (some "greet")
  help := ""
  body params := .write ("Hello " ++ (params.get? "name").getD "World" ++ "!\n") .done

/-- Notes the parameters of each call. -/
def recorder (origin : Origin) (help tag : String) : Handler where
  origin := origin
  help := help
  body params := .note (.called tag params) .done

/-- Fails at each call. -/
def failing (f : Failure) : Handler where
  origin := .function none
  help := ""
  body _ := .fail f

/-- Registers a recorder under the name that the parameter `name` gives. -/
def installer : Handler where
  origin := .function none
  help := ""
  body params :=
    let name := (params.get? "name").getD "new"
    .register name .object "" (fun ps => .note (.called name ps) .done) .done

/-- Runs the lines that are left, and then notes all results. -/
def runAll (tag : String) : (results : List Bool) → List String → Program
  | results, [] => .note (.ran tag results) .done
  | results, line :: lines => .exec line fun b => runAll tag (results ++ [b]) lines

/-- Runs lines at each call, and notes their results. -/
def typist (tag : String) (lines : List String) : Handler where
  origin := .function none
  help := ""
  body _ := runAll tag [] lines

/-- Writes whether loops are started beside their caller. -/
def modeTeller : Handler where
  origin := .function none
  help := ""
  body _ := .ask .async fun b => .write (if b then "True\n" else "False\n") .done

/-- Adds a parameter to those it is called with, and sets a variable for each of them. -/
def assigner : Handler where
  origin := .function none
  help := ""
  body params := Builtin.setvar.body (params.insert "added" "yes")

end LineShell.Handler
