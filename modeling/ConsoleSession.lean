import ConsoleSession.Cli.Program
import ConsoleSession.Main
import ConsoleSession.Proofs.GateRefresh
import ConsoleSession.Proofs.Logout
import ConsoleSession.Proofs.Release
import ConsoleSession.Session.Rehearsal
import ConsoleSession.Proofs.Calls
import ConsoleSession.Proofs.Coalescing
import ConsoleSession.Proofs.Unicode
import ConsoleSession.Proofs.Spelling
import ConsoleSession.Proofs.Printed
import ConsoleSession.Proofs.Redirects
import ConsoleSession.Proofs.Resuming
import ConsoleSession.Proofs.Fitting
import ConsoleSession.Proofs.Publication
import ConsoleSession.Proofs.Checked
import ConsoleSession.Proofs.Adoption
import ConsoleSession.Proofs.Mounting
import ConsoleSession.Proofs.TwoStores
import ConsoleSession.Proofs.TokenTexts
import ConsoleSession.Proofs.Settlement
import ConsoleSession.Proofs.LoginPage
import ConsoleSession.Proofs.Retrying
import ConsoleSession.Proofs.BaseUrl
import ConsoleSession.Proofs.Expiry
import ConsoleSession.Proofs.Agreement
import ConsoleSession.Proofs.Storage
import ConsoleSession.Proofs.Destinations
import ConsoleSession.Proofs.PublicPaths
import ConsoleSession.Proofs.AcceptedTokens
import ConsoleSession.Proofs.Histories
import ConsoleSession.Proofs.Endpoints
import ConsoleSession.Proofs.Environments
