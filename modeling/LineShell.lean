import LineShell.Main
import LineShell.Console.Session
import LineShell.Proofs.Line.Grammar
import LineShell.Proofs.Line.Broken
import LineShell.Proofs.Line.Beginning
import LineShell.Proofs.Console.Reading
import LineShell.Proofs.Console.Interleaving
import LineShell.Proofs.Text.Utf8
import LineShell.Proofs.Text.Lines
import LineShell.Proofs.Text.UpperCase
import LineShell.Proofs.Text.LineEnds
import LineShell.Proofs.Shell.Alike
import LineShell.Proofs.Shell.Calling
import LineShell.Proofs.Shell.Assignments
import LineShell.Proofs.Shell.CommandFiles
import LineShell.Proofs.Shell.ShownLines
import LineShell.Proofs.Shell.Changes
import LineShell.Proofs.Shell.Listings
import LineShell.Proofs.Console.Typed
import LineShell.Proofs.Yaml.Source
import LineShell.Proofs.Yaml.Lexing
import LineShell.Proofs.Yaml.Tree
import LineShell.Proofs.Yaml.Faults
import LineShell.Proofs.Yaml.Remarks
import LineShell.Proofs.Yaml.Writing
import LineShell.Proofs.Files.Growth
import LineShell.Proofs.Options.Appended
import LineShell.Proofs.Value.Datum
import LineShell.Proofs.Config.Checking
import LineShell.Proofs.Config.Names
import LineShell.Proofs.Config.Judging
import LineShell.Proofs.Config.Overriding
import LineShell.Proofs.Config.Priority
import LineShell.Proofs.Shell.Builtins
import LineShell.Proofs.Shell.Textual
import LineShell.Proofs.Shell.Stopping
import LineShell.Proofs.Console.Lasting
import LineShell.Proofs.Console.Stopping
import LineShell.Proofs.Config.Reload
import LineShell.Proofs.Config.Normal
import LineShell.Proofs.Config.Saving
import LineShell.Proofs.Config.Loading
import LineShell.Proofs.Config.Origin
import LineShell.Proofs.Launch.SaveAndReload
import LineShell.Proofs.Launch.Script
import LineShell.Proofs.Console.Joining
import LineShell.Proofs.Console.Answers
import LineShell.Proofs.Console.Apart
import LineShell.Proofs.Launch.Refusal
import LineShell.Proofs.Console.Feeding
import LineShell.Proofs.Console.Ending
import LineShell.Proofs.Console.LineEnds
