import CrmAutomation.Execution.Administration
import CrmAutomation.Log.Line
import CrmAutomation.Rule.Handling
import CrmAutomation.Proofs.Condition.Affix
import CrmAutomation.Proofs.Condition.Emptiness
import CrmAutomation.Proofs.Condition.Equality
import CrmAutomation.Proofs.Condition.Integer
import CrmAutomation.Proofs.Condition.LetterCase
import CrmAutomation.Proofs.Condition.Ordering
import CrmAutomation.Proofs.Execution.Figures
import CrmAutomation.Proofs.Execution.Journal
import CrmAutomation.Proofs.Execution.Listing
import CrmAutomation.Proofs.Node.Forms
import CrmAutomation.Proofs.Record.Sorting
import CrmAutomation.Proofs.Rule.Session
import CrmAutomation.Proofs.Run.Branch
import CrmAutomation.Proofs.Run.BreadthFirst
import CrmAutomation.Proofs.Run.Enlargement
import CrmAutomation.Proofs.Run.Independence
import CrmAutomation.Proofs.Run.Pointer
import CrmAutomation.Proofs.Run.Policy
import CrmAutomation.Proofs.Run.Posting
import CrmAutomation.Proofs.Run.Pruning
import CrmAutomation.Proofs.Run.Reach
import CrmAutomation.Proofs.Run.Timing
import CrmAutomation.Proofs.Run.Variables
import CrmAutomation.Proofs.Store.Backends
import CrmAutomation.Proofs.Template.Composition
import CrmAutomation.Proofs.Template.Resolution
import CrmAutomation.Proofs.Template.RuleText
import CrmAutomation.Proofs.Value.Text

/-!
Workflow automation for customer records: events start workflows, whose nodes write records and send
mail, and run rules.

The modules outside `Proofs` are the program, those inside are what is known of it. The program has
no transport, no event loop and no time of its own: replies and failures of the store are planned,
calls run one after the other, and the clock moves by the delays that are waited for. It also leaves
out the layout of lines on a console, limits of recursion and of memory, and how sixty-four rows or
more are sorted by a field with values that are not numbers. Integers are of any size, but none of
too many digits is written; `Value/Text` says where that is taken for granted.
-/
