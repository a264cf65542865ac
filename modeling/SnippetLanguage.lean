import SnippetLanguage.Pattern.Exact
import SnippetLanguage.Proofs.Ranking.FirstBest
import SnippetLanguage.Proofs.Ranking.OnePass
import SnippetLanguage.Proofs.Ranking.Winner
import SnippetLanguage.Proofs.Ranking.Independence
import SnippetLanguage.Proofs.Pattern.Backtrack
import SnippetLanguage.Proofs.Rule.Signals
import SnippetLanguage.Proofs.Fence.Lines
import SnippetLanguage.Proofs.Pattern.LineShape
import SnippetLanguage.Proofs.Text.Letters
import SnippetLanguage.Proofs.Rule.HeadGuard
import SnippetLanguage.Proofs.Pattern.Alike
import SnippetLanguage.Proofs.Detection.LetterCase
import SnippetLanguage.Proofs.Pattern.Within
import SnippetLanguage.Proofs.Rule.Cases
import SnippetLanguage.Proofs.Rule.Surroundings
import SnippetLanguage.Proofs.Pattern.Leading
import SnippetLanguage.Proofs.Fence.Layout
import SnippetLanguage.Proofs.Detection.LeadingBlanks
import SnippetLanguage.Proofs.Pattern.LineEnding
import SnippetLanguage.Proofs.Rule.SteadyShape
import SnippetLanguage.Proofs.Detection.LineEnding
import SnippetLanguage.Proofs.Ranking.Evidence
import SnippetLanguage.Proofs.Ranking.Order
import SnippetLanguage.Proofs.Table.Construction
import SnippetLanguage.Proofs.Detection.Method
import SnippetLanguage.Proofs.Text.Lowercase
import SnippetLanguage.Proofs.Alias.Canonical
import SnippetLanguage.Proofs.Service.Feedback
import SnippetLanguage.Proofs.Service.Tag
import SnippetLanguage.Proofs.Service.Listing
import SnippetLanguage.Proofs.Rule.Overlap
import SnippetLanguage.Proofs.Service.Presentation
import SnippetLanguage.Proofs.Settings.Reading
import SnippetLanguage.Proofs.Settings.Origins
import SnippetLanguage.Proofs.Settings.Standard
import SnippetLanguage.Proofs.Http.AccessLog
import SnippetLanguage.Proofs.Http.Correlation
import SnippetLanguage.Proofs.Http.Failures
import SnippetLanguage.Proofs.Http.Verdict
import SnippetLanguage.Proofs.Http.Resend
import SnippetLanguage.Proofs.Http.Discretion
