import GeoSchema.Guard
import GeoSchema.Issue.Draft
import GeoSchema.Main
import GeoSchema.Proofs.Coordinates
import GeoSchema.Proofs.Denotation
import GeoSchema.Proofs.Derivation
import GeoSchema.Proofs.DescribedTypes
import GeoSchema.Proofs.EntryPoints
import GeoSchema.Proofs.ForeignMembers
import GeoSchema.Proofs.Intersections
import GeoSchema.Proofs.Language
import GeoSchema.Proofs.Relocation
import GeoSchema.Proofs.Representation
import GeoSchema.Proofs.RequiredKeys
import GeoSchema.Proofs.Separation
import GeoSchema.Proofs.SettingsCache
import GeoSchema.Proofs.Tags
import GeoSchema.Proofs.Thinning
import GeoSchema.Proofs.WellBuilt
import GeoSchema.Proofs.Witness
import GeoSchema.Value.Key
import GeoSchema.Proofs.Inclusions
import GeoSchema.Proofs.MissingMembers
import GeoSchema.Proofs.TypeLeaves
import GeoSchema.Proofs.FeatureProperties
import GeoSchema.Proofs.Blame
import GeoSchema.Proofs.ObjectIntersections
import GeoSchema.Proofs.PathText
import GeoSchema.Proofs.ReportLines
import GeoSchema.Proofs.ReportSize
import GeoSchema.Proofs.GuardMessage
import GeoSchema.Proofs.LiteralEquality
import GeoSchema.Proofs.SelfCheckVerdicts
