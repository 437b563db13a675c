/-!
# Characters by name

The characters whose name, alias or abbreviation in the Unicode standard, version 14, is a single
word. Names are compared without regard to the case of ASCII letters.
-/

namespace Shellbox.Text

/-- The single-word names, in capital letters, with the code points they name. -/
def charNames : List (String × Nat) :=
  [("ABACUS", 129518), ("ACCORDION", 129687), ("ACK", 6), ("ACKNOWLEDGE", 6), ("ADMETOS", 11237),
    ("ADULT", 129489), ("AIRPLANE", 9992), ("AKTIESELSKAB", 8525), ("ALEMBIC", 9879), ("ALERT", 7),
    ("ALM", 1564), ("AMBULANCE", 128657), ("AMPERSAND", 38), ("AMPHORA", 127994), ("ANCHOR", 9875),
    ("ANGLE", 8736), ("ANKH", 9765), ("ANT", 128028), ("APC", 159), ("APOLLON", 11236),
    ("APOSTROPHE", 39), ("AQUARIUS", 9810), ("ARC", 8978), ("ARIES", 9800), ("ASSERTION", 8870),
    ("ASTERISK", 42), ("ASTERISM", 8258), ("ASTRAEA", 11225), ("AUBERGINE", 127814),
    ("AUTOMOBILE", 128663), ("AVOCADO", 129361), ("AXE", 129683), ("BABY", 128118),
    ("BACKSPACE", 8), ("BACON", 129363), ("BADGER", 129441), ("BAGEL", 129391), ("BALLOON", 127880),
    ("BANANA", 127820), ("BANJO", 129685), ("BANK", 127974), ("BASEBALL", 9918), ("BASKET", 129530),
    ("BAT", 129415), ("BATH", 128704), ("BATHTUB", 128705), ("BATTERY", 128267), ("BEANS", 129752),
    ("BEAVER", 129451), ("BECAUSE", 8757), ("BED", 128719), ("BEETLE", 129714), ("BEL", 7),
    ("BELL", 128276), ("BETWEEN", 8812), ("BICYCLE", 128690), ("BICYCLIST", 128692),
    ("BIKINI", 128089), ("BILLIARDS", 127921), ("BIRD", 128038), ("BISON", 129452),
    ("BLOSSOM", 127804), ("BLOWFISH", 128033), ("BLUEBERRIES", 129744), ("BOAR", 128023),
    ("BOM", 65279), ("BOMB", 128163), ("BONE", 129460), ("BOOK", 128366), ("BOOKMARK", 128278),
    ("BOOKS", 128218), ("BOOMERANG", 129667), ("BOUQUET", 128144), ("BOWLING", 127923),
    ("BOWTIE", 8904), ("BOY", 128102), ("BPH", 130), ("BRAIN", 129504), ("BREAD", 127838),
    ("BREAST-FEEDING", 129329), ("BREVE", 728), ("BRICK", 129521), ("BRIEFCASE", 128188),
    ("BRIEFS", 129650), ("BROCCOLI", 129382), ("BROOM", 129529), ("BS", 8), ("BUBBLES", 129767),
    ("BUCKET", 129699), ("BUG", 128027), ("BULLET", 8226), ("BULLHORN", 128363), ("BULLSEYE", 9678),
    ("BURRITO", 127791), ("BUS", 128652), ("BUTTER", 129480), ("BUTTERFLY", 129419),
    ("CACTUS", 127797), ("CADUCEUS", 9764), ("CALENDAR", 128197), ("CAMERA", 128247),
    ("CAMPING", 127957), ("CAN", 24), ("CANCEL", 24), ("CANCER", 9803), ("CANDLE", 128367),
    ("CANDY", 127852), ("CANOE", 128758), ("CAPITULUM", 11839), ("CAPRICORN", 9809),
    ("CARET", 8248), ("CARON", 711), ("CARROT", 129365), ("CASTLE", 9963), ("CAT", 128008),
    ("CCH", 148), ("CEDILLA", 184), ("CERES", 9907), ("CGJ", 847), ("CHAINS", 9939),
    ("CHAIR", 129681), ("CHERRIES", 127826), ("CHESTNUT", 127792), ("CHICKEN", 128020),
    ("CHILD", 129490), ("CHIPMUNK", 128063), ("CHIRON", 9911), ("CHOPSTICKS", 129378),
    ("CHURCH", 9962), ("CINEMA", 127910), ("CITYSCAPE", 127961), ("CLIPBOARD", 128203),
    ("CLOUD", 9729), ("COAT", 129509), ("COCKROACH", 129715), ("COCONUT", 129381), ("COFFIN", 9904),
    ("COIN", 129689), ("COLON", 58), ("COMET", 9732), ("COMMA", 44), ("COMPASS", 129517),
    ("COMPLEMENT", 8705), ("COMPRESSION", 128476), ("CONJUNCTION", 9740), ("COOKIE", 127850),
    ("COOKING", 127859), ("CORAL", 129720), ("COUNTERBORE", 9012), ("COUNTERSINK", 9013),
    ("COW", 128004), ("CR", 13), ("CRAB", 129408), ("CRICKET", 129431), ("CROCODILE", 128010),
    ("CROISSANT", 129360), ("CROWN", 128081), ("CRUTCH", 129660), ("CSI", 155),
    ("CUCUMBER", 129362), ("CUPCAKE", 129473), ("CUPIDO", 11232), ("CUSTARD", 127854),
    ("CUSTOMS", 128707), ("CYCLONE", 127744), ("CYLINDRICITY", 9005), ("DAGGER", 8224),
    ("DANCER", 128131), ("DANGO", 127841), ("DC1", 17), ("DC2", 18), ("DC3", 19), ("DC4", 20),
    ("DCS", 144), ("DEER", 129420), ("DEL", 127), ("DELETE", 127), ("DESERT", 127964),
    ("DIAERESIS", 168), ("DIVIDES", 8739), ("DLE", 16), ("DOCUMENT", 128462), ("DODO", 129444),
    ("DOG", 128021), ("DOLPHIN", 128044), ("DOOR", 128682), ("DOUGHNUT", 127849),
    ("DRAGON", 128009), ("DRESS", 128087), ("DROPLET", 128167), ("DUCK", 129414),
    ("DUMPLING", 129375), ("DVD", 128192), ("EAGLE", 129413), ("EAR", 128066), ("EARTH", 9793),
    ("EGG", 129370), ("ELEPHANT", 128024), ("ELEVATOR", 128727), ("ELF", 129501), ("ENQ", 5),
    ("ENQUIRY", 5), ("ENVELOPE", 9993), ("EOL", 10), ("EOM", 25), ("EOT", 4),
    ("EPA", 151), ("ESA", 135), ("ESC", 27), ("ESCAPE", 27),
    ("ESTIMATES", 8793), ("ETB", 23), ("ETX", 3), ("EXCESS", 8761),
    ("EYE", 128065), ("EYEGLASSES", 128083), ("EYES", 128064), ("FACTORY", 127981),
    ("FAIRY", 129498), ("FALAFEL", 129478), ("FAMILY", 128106), ("FEATHER", 129718),
    ("FENCER", 129338), ("FERRY", 9972), ("FF", 12), ("FIRE", 128293), ("FIRECRACKER", 129512),
    ("FIREWORKS", 127878), ("FISH", 128031), ("FISHEYE", 9673), ("FLAMINGO", 129449),
    ("FLATBREAD", 129747), ("FLATNESS", 9189), ("FLEUR-DE-LIS", 9884), ("FLOWER", 9880),
    ("FLY", 129712), ("FOG", 127787), ("FOGGY", 127745), ("FOLDER", 128448), ("FONDUE", 129749),
    ("FOOT", 129462), ("FOOTPRINTS", 128099), ("FORCES", 8873), ("FORKING", 10972),
    ("FOUNTAIN", 9970), ("FROWN", 8994), ("FS", 28), ("FSI", 8296), ("FUSE", 9179), ("FVS1", 6155),
    ("FVS2", 6156), ("FVS3", 6157), ("FVS4", 6159), ("GARLIC", 129476), ("GEAR", 9881),
    ("GEMINI", 9802), ("GENIE", 129502), ("GHOST", 128123), ("GIRL", 128103), ("GLOVES", 129508),
    ("GOAT", 128016), ("GOGGLES", 129405), ("GOLFER", 127948), ("GORILLA", 129421),
    ("GRAPES", 127815), ("GS", 29), ("GUARDSMAN", 128130), ("GUITAR", 127928), ("HADES", 11233),
    ("HAIRCUT", 128135), ("HAMBURGER", 127828), ("HAMMER", 128296), ("HAMSA", 129708),
    ("HANDBAG", 128092), ("HANDBALL", 129342), ("HANDSHAKE", 129309), ("HEADPHONE", 127911),
    ("HEADSTONE", 129702), ("HEDGEHOG", 129428), ("HELICOPTER", 128641), ("HERB", 127807),
    ("HIBISCUS", 127802), ("HIPPOPOTAMUS", 129435), ("HOCHO", 128298), ("HOLE", 128371),
    ("HOMOTHETIC", 8763), ("HONEYBEE", 128029), ("HOOK", 129693), ("HOP", 129), ("HORSE", 128014),
    ("HOSPITAL", 127973), ("HOTEL", 127976), ("HOURGLASS", 8987), ("HOUSE", 8962), ("HT", 9),
    ("HTJ", 137), ("HTS", 136), ("HUT", 128726), ("HYGIEA", 11226), ("HYPHEN", 8208),
    ("HYPHEN-MINUS", 45), ("HYPODIASTOLE", 11794), ("IMP", 128127), ("INCREMENT", 8710),
    ("IND", 132), ("INDEX", 132), ("INFINITY", 8734), ("INTEGRAL", 8747), ("INTERCALATE", 8890),
    ("INTERROBANG", 8253), ("INTERSECTION", 8745), ("JACK-O-LANTERN", 127875), ("JAR", 129753),
    ("JEANS", 128086), ("JOIN", 10781), ("JOYSTICK", 128377), ("JUGGLING", 129337), ("JUNO", 9909),
    ("JUPITER", 9795), ("KAABA", 128331), ("KANGAROO", 129432), ("KEY", 128273), ("KEYBOARD", 9000),
    ("KIMONO", 128088), ("KISS", 128143), ("KITE", 129665), ("KIWIFRUIT", 129373), ("KNOT", 129698),
    ("KOALA", 128040), ("KRONOS", 11235), ("LABEL", 127991), ("LADDER", 129692), ("LEDGER", 128210),
    ("LEG", 129461), ("LEMON", 127819), ("LEO", 9804), ("LEOPARD", 128006), ("LF", 10),
    ("LIBRA", 9806), ("LIGHTNING", 9735), ("LIPS", 128482), ("LIPSTICK", 128132),
    ("LIZARD", 129422), ("LLAMA", 129433), ("LOBSTER", 129438), ("LOCK", 128274),
    ("LOLLIPOP", 127853), ("LOTUS", 129719), ("LOZENGE", 9674), ("LRE", 8234), ("LRI", 8294),
    ("LRM", 8206), ("LRO", 8237), ("LUGGAGE", 129523), ("LUNGS", 129729), ("MACRON", 175),
    ("MAGE", 129497), ("MAGNET", 129522), ("MAMMOTH", 129443), ("MAN", 128104), ("MANGO", 129389),
    ("MAXIMIZE", 128470), ("MELON", 127816), ("MEMO", 128221), ("MERCURY", 9791),
    ("MERPERSON", 129500), ("METRO", 128647), ("MICROBE", 129440), ("MICROPHONE", 127908),
    ("MICROSCOPE", 128300), ("MINIBUS", 128656), ("MINIDISC", 128189), ("MINIMIZE", 128469),
    ("MINY", 10751), ("MIRROR", 129694), ("MMSP", 8287), ("MODELS", 8871), ("MONKEY", 128018),
    ("MONORAIL", 128669), ("MOSQUE", 128332), ("MOSQUITO", 129439), ("MOTORWAY", 128739),
    ("MOUNTAIN", 9968), ("MOUSE", 128001), ("MOUTH", 128068), ("MOYAI", 128511), ("MULTIMAP", 8888),
    ("MULTISET", 8844), ("MUSHROOM", 127812), ("MVS", 6158), ("MW", 149), ("NABLA", 8711),
    ("NAK", 21), ("NAND", 8892), ("NBH", 131), ("NBSP", 160), ("NECKTIE", 128084), ("NEL", 133),
    ("NEPTUNE", 9798), ("NESSUS", 11228), ("NEUTER", 9906), ("NEWSPAPER", 128240),
    ("NINJA", 129399), ("NL", 10), ("NNBSP", 8239), ("NONFORKING", 10973), ("NOR", 8893),
    ("NOSE", 128067), ("NOTE", 128456), ("NOTEBOOK", 128211), ("NUL", 0), ("NULL", 0),
    ("OCTOPUS", 128025), ("ODEN", 127842), ("OGONEK", 731), ("OLIVE", 129746), ("ONION", 129477),
    ("OPHIUCHUS", 9934), ("OPPOSITION", 9741), ("ORANGUTAN", 129447), ("OSC", 157),
    ("OTTER", 129446), ("OVERLAP", 128471), ("OVERLINE", 8254), ("OWL", 129417), ("OX", 128002),
    ("OYSTER", 129450), ("PACKAGE", 128230), ("PAD", 128), ("PAGE", 128463), ("PAGER", 128223),
    ("PAGES", 128464), ("PAGODA", 128724), ("PALLAS", 9908), ("PANCAKES", 129374),
    ("PAPERCLIP", 128206), ("PARACHUTE", 129666), ("PARAGRAPHOS", 11791), ("PARROT", 129436),
    ("PDF", 8236), ("PDI", 8297), ("PEACH", 127825), ("PEACOCK", 129434), ("PEANUTS", 129372),
    ("PEAR", 127824), ("PEDESTRIAN", 128694), ("PENCIL", 9999), ("PENGUIN", 128039),
    ("PENTAGRAM", 9956), ("PERPENDICULAR", 10178), ("PERSPECTIVE", 8966), ("PHOLUS", 11227),
    ("PICK", 9935), ("PIE", 129383), ("PIG", 128022), ("PILL", 128138), ("PINATA", 129669),
    ("PINEAPPLE", 127821), ("PISCES", 9811), ("PISTOL", 128299), ("PITCHFORK", 8916),
    ("PLACARD", 129703), ("PLD", 139), ("PLU", 140), ("PLUNGER", 129696), ("PLUTO", 9799),
    ("PM", 158), ("POODLE", 128041), ("POPCORN", 127871), ("POSEIDON", 11239), ("POSTBOX", 128238),
    ("POTATO", 129364), ("POUCH", 128093), ("PRECEDES", 8826), ("PRETZEL", 129384), ("PRIME", 8242),
    ("PRINCE", 129332), ("PRINCESS", 128120), ("PRINTER", 128424), ("PROJECTIVE", 8965),
    ("PROPORTION", 8759), ("PROSERPINA", 11224), ("PU1", 145), ("PU2", 146), ("PURSE", 128091),
    ("PUSHPIN", 128204), ("QUINCUNX", 9915), ("RABBIT", 128007), ("RACCOON", 129437),
    ("RADIO", 128251), ("RAIN", 9926), ("RAINBOW", 127752), ("RAM", 128015), ("RAT", 128000),
    ("RATIO", 8758), ("RAZOR", 129682), ("RECEIPT", 129534), ("RESPONSE", 8479),
    ("RESTROOM", 128699), ("RHINOCEROS", 129423), ("RI", 141), ("RIBBON", 127872),
    ("RIFLE", 129350), ("RING", 128141), ("RLE", 8235), ("RLI", 8295), ("RLM", 8207), ("RLO", 8238),
    ("ROCK", 129704), ("ROCKET", 128640), ("ROOSTER", 128019), ("ROSE", 127801),
    ("ROSETTE", 127989), ("ROWBOAT", 128675), ("RS", 30), ("RULE-DELAYED", 10740),
    ("RUNNER", 127939), ("SAGITTARIUS", 9808), ("SAILBOAT", 9973), ("SALTIRE", 9747),
    ("SANDWICH", 129386), ("SARI", 129403), ("SATELLITE", 128752), ("SATURN", 9796),
    ("SAUROPOD", 129429), ("SAXOPHONE", 127927), ("SCALES", 9878), ("SCARF", 129507),
    ("SCHOOL", 127979), ("SCI", 154), ("SCOOTER", 128756), ("SCORPION", 129410), ("SCORPIUS", 9807),
    ("SCREEN", 128437), ("SCREWDRIVER", 129691), ("SCROLL", 128220), ("SCRUPLE", 8456),
    ("SEAL", 129453), ("SEAT", 128186), ("SECTOR", 8980), ("SEDNA", 11250), ("SEEDLING", 127793),
    ("SEGMENT", 8979), ("SELFIE", 129331), ("SEMICOLON", 59), ("SEMISEXTILE", 9914),
    ("SESQUIQUADRATE", 9916), ("SEXTILE", 9913), ("SGC", 153), ("SHAMROCK", 9752),
    ("SHARK", 129416), ("SHEEP", 128017), ("SHIELD", 128737), ("SHIP", 128674),
    ("SHORTCAKE", 127856), ("SHORTS", 129651), ("SHOWER", 128703), ("SHRIMP", 129424),
    ("SHRUG", 129335), ("SHY", 173), ("SI", 15), ("SKATEBOARD", 128761), ("SKIER", 9975),
    ("SKULL", 128128), ("SKUNK", 129448), ("SLED", 128759), ("SLOPE", 9011), ("SLOTH", 129445),
    ("SMILE", 8995), ("SNAIL", 128012), ("SNAKE", 128013), ("SNOWBOARDER", 127938),
    ("SNOWFLAKE", 10052), ("SNOWMAN", 9731), ("SO", 14), ("SOCKS", 129510), ("SOFTBALL", 129358),
    ("SOH", 1), ("SOLIDUS", 47), ("SOS", 152), ("SP", 32), ("SPA", 150), ("SPACE", 32),
    ("SPAGHETTI", 127837), ("SPARKLE", 10055), ("SPARKLES", 10024), ("SPEAKER", 128264),
    ("SPEEDBOAT", 128676), ("SPIDER", 128375), ("SPONGE", 129533), ("SPOON", 129348),
    ("SQUID", 129425), ("SS2", 142), ("SS3", 143), ("SSA", 134), ("ST", 156), ("STADIUM", 127967),
    ("STATION", 128649), ("STETHOSCOPE", 129658), ("STOPWATCH", 9201), ("STRAIGHTNESS", 9188),
    ("STRAWBERRY", 127827), ("STS", 147), ("STUPA", 128723), ("STX", 2), ("SUB", 26),
    ("SUBSTITUTE", 26), ("SUCCEEDS", 8827), ("SUN", 9737), ("SUNFLOWER", 127803),
    ("SUNRISE", 127749), ("SUPERHERO", 129464), ("SUPERVILLAIN", 129465), ("SURFER", 127940),
    ("SUSHI", 127843), ("SWAN", 129442), ("SWIMMER", 127946), ("SYMMETRY", 9007), ("SYN", 22),
    ("SYNAGOGUE", 128333), ("SYRINGE", 128137), ("T-REX", 129430), ("T-SHIRT", 128085), ("TAB", 9),
    ("TACO", 127790), ("TAMALE", 129748), ("TANGERINE", 127818), ("TAURUS", 9801), ("TAXI", 128661),
    ("TEAPOT", 129750), ("TELESCOPE", 128301), ("TELEVISION", 128250), ("TENT", 9978),
    ("THEREFORE", 8756), ("THERMODYNAMIC", 10727), ("THERMOMETER", 127777), ("THUNDERSTORM", 9736),
    ("TICKET", 127915), ("TIGER", 128005), ("TILDE", 126), ("TINY", 10750), ("TOILET", 128701),
    ("TOMATO", 127813), ("TONGUE", 128069), ("TOOLBOX", 129520), ("TOOTH", 129463),
    ("TOOTHBRUSH", 129701), ("TRACKBALL", 128434), ("TRACTOR", 128668), ("TRAIN", 128646),
    ("TRAM", 128650), ("TRANSPLUTO", 11223), ("TRICOLON", 8285), ("TROLL", 129484),
    ("TROLLEYBUS", 128654), ("TROPHY", 127942), ("TRUE", 8872), ("TRUMPET", 127930),
    ("TULIP", 127799), ("TURKEY", 129411), ("TURTLE", 128034), ("UMBRELLA", 9730),
    ("UNDERTIE", 8255), ("UNION", 8746), ("URANUS", 9797), ("US", 31), ("VAMPIRE", 129499),
    ("VERSICLE", 8483), ("VESTA", 9910), ("VIDEOCASSETTE", 128252), ("VIOLIN", 127931),
    ("VIRGO", 9805), ("VOLCANO", 127755), ("VOLLEYBALL", 127952), ("VS1", 65024), ("VS10", 65033),
    ("VS100", 917843), ("VS101", 917844), ("VS102", 917845), ("VS103", 917846), ("VS104", 917847),
    ("VS105", 917848), ("VS106", 917849), ("VS107", 917850), ("VS108", 917851), ("VS109", 917852),
    ("VS11", 65034), ("VS110", 917853), ("VS111", 917854), ("VS112", 917855), ("VS113", 917856),
    ("VS114", 917857), ("VS115", 917858), ("VS116", 917859), ("VS117", 917860), ("VS118", 917861),
    ("VS119", 917862), ("VS12", 65035), ("VS120", 917863), ("VS121", 917864), ("VS122", 917865),
    ("VS123", 917866), ("VS124", 917867), ("VS125", 917868), ("VS126", 917869), ("VS127", 917870),
    ("VS128", 917871), ("VS129", 917872), ("VS13", 65036), ("VS130", 917873), ("VS131", 917874),
    ("VS132", 917875), ("VS133", 917876), ("VS134", 917877), ("VS135", 917878), ("VS136", 917879),
    ("VS137", 917880), ("VS138", 917881), ("VS139", 917882), ("VS14", 65037), ("VS140", 917883),
    ("VS141", 917884), ("VS142", 917885), ("VS143", 917886), ("VS144", 917887), ("VS145", 917888),
    ("VS146", 917889), ("VS147", 917890), ("VS148", 917891), ("VS149", 917892), ("VS15", 65038),
    ("VS150", 917893), ("VS151", 917894), ("VS152", 917895), ("VS153", 917896), ("VS154", 917897),
    ("VS155", 917898), ("VS156", 917899), ("VS157", 917900), ("VS158", 917901), ("VS159", 917902),
    ("VS16", 65039), ("VS160", 917903), ("VS161", 917904), ("VS162", 917905), ("VS163", 917906),
    ("VS164", 917907), ("VS165", 917908), ("VS166", 917909), ("VS167", 917910), ("VS168", 917911),
    ("VS169", 917912), ("VS17", 917760), ("VS170", 917913), ("VS171", 917914), ("VS172", 917915),
    ("VS173", 917916), ("VS174", 917917), ("VS175", 917918), ("VS176", 917919), ("VS177", 917920),
    ("VS178", 917921), ("VS179", 917922), ("VS18", 917761), ("VS180", 917923), ("VS181", 917924),
    ("VS182", 917925), ("VS183", 917926), ("VS184", 917927), ("VS185", 917928), ("VS186", 917929),
    ("VS187", 917930), ("VS188", 917931), ("VS189", 917932), ("VS19", 917762), ("VS190", 917933),
    ("VS191", 917934), ("VS192", 917935), ("VS193", 917936), ("VS194", 917937), ("VS195", 917938),
    ("VS196", 917939), ("VS197", 917940), ("VS198", 917941), ("VS199", 917942), ("VS2", 65025),
    ("VS20", 917763), ("VS200", 917943), ("VS201", 917944), ("VS202", 917945), ("VS203", 917946),
    ("VS204", 917947), ("VS205", 917948), ("VS206", 917949), ("VS207", 917950), ("VS208", 917951),
    ("VS209", 917952), ("VS21", 917764), ("VS210", 917953), ("VS211", 917954), ("VS212", 917955),
    ("VS213", 917956), ("VS214", 917957), ("VS215", 917958), ("VS216", 917959), ("VS217", 917960),
    ("VS218", 917961), ("VS219", 917962), ("VS22", 917765), ("VS220", 917963), ("VS221", 917964),
    ("VS222", 917965), ("VS223", 917966), ("VS224", 917967), ("VS225", 917968), ("VS226", 917969),
    ("VS227", 917970), ("VS228", 917971), ("VS229", 917972), ("VS23", 917766), ("VS230", 917973),
    ("VS231", 917974), ("VS232", 917975), ("VS233", 917976), ("VS234", 917977), ("VS235", 917978),
    ("VS236", 917979), ("VS237", 917980), ("VS238", 917981), ("VS239", 917982), ("VS24", 917767),
    ("VS240", 917983), ("VS241", 917984), ("VS242", 917985), ("VS243", 917986), ("VS244", 917987),
    ("VS245", 917988), ("VS246", 917989), ("VS247", 917990), ("VS248", 917991), ("VS249", 917992),
    ("VS25", 917768), ("VS250", 917993), ("VS251", 917994), ("VS252", 917995), ("VS253", 917996),
    ("VS254", 917997), ("VS255", 917998), ("VS256", 917999), ("VS26", 917769), ("VS27", 917770),
    ("VS28", 917771), ("VS29", 917772), ("VS3", 65026), ("VS30", 917773), ("VS31", 917774),
    ("VS32", 917775), ("VS33", 917776), ("VS34", 917777), ("VS35", 917778), ("VS36", 917779),
    ("VS37", 917780), ("VS38", 917781), ("VS39", 917782), ("VS4", 65027), ("VS40", 917783),
    ("VS41", 917784), ("VS42", 917785), ("VS43", 917786), ("VS44", 917787), ("VS45", 917788),
    ("VS46", 917789), ("VS47", 917790), ("VS48", 917791), ("VS49", 917792), ("VS5", 65028),
    ("VS50", 917793), ("VS51", 917794), ("VS52", 917795), ("VS53", 917796), ("VS54", 917797),
    ("VS55", 917798), ("VS56", 917799), ("VS57", 917800), ("VS58", 917801), ("VS59", 917802),
    ("VS6", 65029), ("VS60", 917803), ("VS61", 917804), ("VS62", 917805), ("VS63", 917806),
    ("VS64", 917807), ("VS65", 917808), ("VS66", 917809), ("VS67", 917810), ("VS68", 917811),
    ("VS69", 917812), ("VS7", 65030), ("VS70", 917813), ("VS71", 917814), ("VS72", 917815),
    ("VS73", 917816), ("VS74", 917817), ("VS75", 917818), ("VS76", 917819), ("VS77", 917820),
    ("VS78", 917821), ("VS79", 917822), ("VS8", 65031), ("VS80", 917823), ("VS81", 917824),
    ("VS82", 917825), ("VS83", 917826), ("VS84", 917827), ("VS85", 917828), ("VS86", 917829),
    ("VS87", 917830), ("VS88", 917831), ("VS89", 917832), ("VS9", 65032), ("VS90", 917833),
    ("VS91", 917834), ("VS92", 917835), ("VS93", 917836), ("VS94", 917837), ("VS95", 917838),
    ("VS96", 917839), ("VS97", 917840), ("VS98", 917841), ("VS99", 917842), ("VT", 11),
    ("VTS", 138), ("VULCANUS", 11238), ("WAFFLE", 129479), ("WASTEBASKET", 128465), ("WATCH", 8986),
    ("WATERMELON", 127817), ("WEDDING", 128146), ("WHALE", 128011), ("WHEEL", 128734),
    ("WINDOW", 129695), ("WJ", 8288), ("WOMAN", 128105), ("WOOD", 129717), ("WORM", 129713),
    ("WRENCH", 128295), ("WRESTLERS", 129340), ("X-RAY", 129659), ("XOR", 8891), ("YO-YO", 129664),
    ("ZEUS", 11234), ("ZOMBIE", 129503), ("ZWJ", 8205), ("ZWNBSP", 65279), ("ZWNJ", 8204),
    ("ZWSP", 8203)]

/-- The code point of a character name. -/
def namedCode? (name : String) : Option Nat := charNames.lookup name.toUpper

end Shellbox.Text
