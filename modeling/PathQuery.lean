import PathQuery.Main
import PathQuery.Param.Binary
import PathQuery.Proofs.Alias.Fresh
import PathQuery.Proofs.Alias.Runs
import PathQuery.Proofs.Calendar.Moments
import PathQuery.Proofs.Comparison.Lists
import PathQuery.Proofs.Comparison.Opposites
import PathQuery.Proofs.Comparison.Texts
import PathQuery.Proofs.Compile.Absent
import PathQuery.Proofs.Compile.Blame
import PathQuery.Proofs.Compile.Depth
import PathQuery.Proofs.Compile.Inside
import PathQuery.Proofs.Compile.Limits
import PathQuery.Proofs.Compile.Narrowing
import PathQuery.Proofs.Compile.Passes
import PathQuery.Proofs.Compile.Phases
import PathQuery.Proofs.Compile.Relations
import PathQuery.Proofs.Compile.Renaming
import PathQuery.Proofs.Compile.Safety
import PathQuery.Proofs.Compile.Skipped
import PathQuery.Proofs.Compile.Strategies
import PathQuery.Proofs.Compile.Typed
import PathQuery.Proofs.Compile.Visits
import PathQuery.Proofs.Filter.RoundTrip
import PathQuery.Proofs.Json.Decode
import PathQuery.Proofs.Paging
import PathQuery.Proofs.Search
import PathQuery.Proofs.Sorting
import PathQuery.Proofs.Sql.Equality
import PathQuery.Proofs.Sql.Parameters
import PathQuery.Proofs.Sql.Unambiguous
