import NodeSettings.Files.Listing
import NodeSettings.Main
import NodeSettings.Proofs.Rounding
import NodeSettings.Proofs.Shortest
import NodeSettings.Proofs.NumberTexts
import NodeSettings.Proofs.QuotedTexts
import NodeSettings.Proofs.WrittenLines
import NodeSettings.Proofs.WrittenTable
import NodeSettings.Proofs.RoundTrip
import NodeSettings.Proofs.Replacing
import NodeSettings.Proofs.Names
import NodeSettings.Proofs.Growing
import NodeSettings.Proofs.Runs
import NodeSettings.Proofs.Contents
import NodeSettings.Proofs.InPlace
import NodeSettings.Proofs.LayingOut
import NodeSettings.Proofs.Overrides
import NodeSettings.Proofs.Lasting
import NodeSettings.Proofs.Succession
import NodeSettings.Proofs.Loading
import NodeSettings.Proofs.Values
import NodeSettings.Proofs.Commands
import NodeSettings.Proofs.Stopping
import NodeSettings.Proofs.Tokens
import NodeSettings.Proofs.Parts
import NodeSettings.Proofs.Layouts
import NodeSettings.Proofs.Rearranging
import NodeSettings.Proofs.Closest
import NodeSettings.Proofs.Fitting
import NodeSettings.Proofs.Ignoring
import NodeSettings.Proofs.Reporting
import NodeSettings.Proofs.Applying
import NodeSettings.Proofs.ByteOrder
import NodeSettings.Proofs.Recording
import NodeSettings.Proofs.Writing
import NodeSettings.Proofs.DottedNames
