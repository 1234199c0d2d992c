import MailFilters.Text.Percent
import MailFilters.Rule.Workspace
import MailFilters.Document.File
import MailFilters.Filter.Install
import MailFilters.Account.SignIn
import MailFilters.Main
import MailFilters.Proofs.Spelling
import MailFilters.Proofs.Condition.Clauses
import MailFilters.Proofs.Condition.Uniform
import MailFilters.Proofs.Document.Shape
import MailFilters.Proofs.Document.Accepted
import MailFilters.Proofs.Condition.QueryGrammar
import MailFilters.Proofs.Condition.QueryReading
import MailFilters.Proofs.Text.Percent
import MailFilters.Proofs.Folder
import MailFilters.Proofs.Token
import MailFilters.Proofs.Action
import MailFilters.Proofs.Condition.Written
import MailFilters.Proofs.Document.Writer
import MailFilters.Proofs.Account.Coherence
import MailFilters.Proofs.Filter.Accounting
import MailFilters.Proofs.Filter.Separation
import MailFilters.Proofs.Filter.DryRun
import MailFilters.Proofs.Rule.Workspace
import MailFilters.Proofs.Condition.Misspelled
import MailFilters.Proofs.Document.Refusals
import MailFilters.Proofs.Account.Service
import MailFilters.Proofs.Filter.Effects
import MailFilters.Proofs.Filter.Conflicts
import MailFilters.Proofs.Layout
import MailFilters.Proofs.Filter.Verdict
import MailFilters.Proofs.Filter.Repeat
import MailFilters.Proofs.Document.Parsed
import MailFilters.Proofs.Program.Convert
import MailFilters.Proofs.Program.CommandLine
import MailFilters.Proofs.Program.Run
import MailFilters.Proofs.Account.SignIn
import MailFilters.Proofs.Account.Levels
import MailFilters.Proofs.Account.Growth
import MailFilters.Proofs.Account.Answers
import MailFilters.Proofs.Account.Resume
import MailFilters.Proofs.Filter.Order
import MailFilters.Proofs.FlagCover
import MailFilters.Proofs.Document.File
import MailFilters.Proofs.Recognition
import MailFilters.Proofs.Document.Precedence
import MailFilters.Proofs.Filter.Inquiries
import MailFilters.Proofs.Condition.Append
import MailFilters.Proofs.Condition.Dated
import MailFilters.Proofs.Escape
import MailFilters.Proofs.Scan
import MailFilters.Proofs.Recipient
import MailFilters.Proofs.Text.DecodedSlash
import MailFilters.Proofs.Account.Asked
import MailFilters.Proofs.Folder.Levels
