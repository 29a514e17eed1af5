import Fat32Image.Bytes
import Fat32Image.Name83
import Fat32Image.Builder
import Fat32Image.Alloc
import Fat32Image.Reader
import Fat32Image.DataArea
import Fat32Image.Directory
import Fat32Image.Headers
import Fat32Image.Session
import Fat32Image.Build
import Fat32Image.Main
import Fat32Image.RoundTrip
import Fat32Image.Fixed
import Fat32Image.FixedImage
import Fat32Image.FixedRoundTrip
import Fat32Image.Consistency
import Fat32Image.Listing
import Fat32Image.Lookup
import Fat32Image.Outcome
import Fat32Image.FixedTree
import Fat32Image.Methods
import Fat32Image.RootLog
import Fat32Image.RootFiles
import Fat32Image.Integrity
