import AutoProxy.Disclosure
import AutoProxy.Draft
import AutoProxy.Main
import AutoProxy.Proofs.Agreement
import AutoProxy.Proofs.Base64.Kept
import AutoProxy.Proofs.CommandLine.Settings
import AutoProxy.Proofs.Decision
import AutoProxy.Proofs.Disclosure
import AutoProxy.Proofs.Domain.Suffixes
import AutoProxy.Proofs.Draft
import AutoProxy.Proofs.Feed.Plain
import AutoProxy.Proofs.Feed.UserRules
import AutoProxy.Proofs.FeedFailure
import AutoProxy.Proofs.LetterCase
import AutoProxy.Proofs.LocalHost
import AutoProxy.Proofs.RuleSet.Form
import AutoProxy.Proofs.RuleSet.RoundTrip
import AutoProxy.Proofs.RuleSet.Saved
import AutoProxy.Proofs.Script.Canonical
import AutoProxy.Proofs.Script.Carried
import AutoProxy.Proofs.Script.Comment
import AutoProxy.Proofs.Service.Chain
import AutoProxy.Proofs.Text.Clean
